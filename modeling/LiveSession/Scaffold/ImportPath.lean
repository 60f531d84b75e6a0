import LiveSession.Context
import LiveSession.Scaffold.Template
import LiveSession.Scaffold.Error
/-!
# Import paths for the bridge source

The bridge source lives in the scratch directory and imports the project's main module by a
relative path. `importPath` computes it lexically from the components of both paths (`.` parts
ignored): one `..` for each component of the importing directory past the longest common
prefix, then the target's remaining components, joined with `/`. One trailing `.tsx`, `.ts` or
`.js` is removed, tried in that order, and a path that does not climb gets `./` in front.

`renderBridge` fills the bridge template with the main module's exported symbol, always
`AppModule`, and that import path.
-/

namespace LiveSession.Scaffold

/-- The length of the longest common prefix of two lists. -/
def commonPrefixLength : List String → List String → Nat
  | a :: as, b :: bs => if a == b then commonPrefixLength as bs + 1 else 0
  | _, _ => 0

/-- Removes the first of the given suffixes that the text ends with. -/
def stripFirstSuffix (s : String) : List String → String
  | [] => s
  | x :: xs => if s.endsWith x then String.ofList (s.toList.take (s.length - x.length))
      else stripFirstSuffix s xs

/-- The relative import of `target` from a module in `fromDir`. -/
def importPath (fromDir target : String) : String :=
  let src := Path.components fromDir
  let dst := Path.components target
  let common := commonPrefixLength src dst
  let parts := List.replicate (src.length - common) ".." ++ dst.drop common
  let joined := stripFirstSuffix ("/".intercalate parts) [".tsx", ".ts", ".js"]
  if joined.startsWith "../" then joined else "./" ++ joined

/-- The symbol the main module exports. -/
def compositionRootSymbol (_root : String) : String := "AppModule"

/-- A rendered bridge source, with the symbol and import path it uses. -/
structure RenderedBridge where
  rendered : String
  symbol : String
  importPath : String
  deriving DecidableEq, Repr

/-- Fills the bridge template for a main module. -/
def renderBridge (template : String) (layout : ScratchLayout) (root : String) :
    Except SynthesisError RenderedBridge :=
  let symbol := compositionRootSymbol root
  let imp := importPath layout.dir root
  match render template [("app_module", symbol), ("app_module_path", imp)] with
  | .ok text => .ok ⟨text, symbol, imp⟩
  | .error u => .error (.unknownVariable u.name u.offset)

end LiveSession.Scaffold
