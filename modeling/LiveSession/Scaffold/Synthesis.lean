import LiveSession.Files.Tree
import LiveSession.Scaffold.ImportPath
/-!
# Synthesis of the bridge files

`synthesize` writes the files that load the project's main module under hot reload into the
scratch directory. It first checks, without writing anything, that the main module is a regular
file, that the bridge template is installed and reads as UTF-8, that the helper scope asset is
installed and that the template renders. Then it makes the scratch directory, writes the
rendered bridge source, copies the helper scope and, when installed, the type declarations.

A write that fails stops the run, and what was written before it stays written, so the result
is the tree after the run together with the report or the error.
-/

namespace LiveSession.Scaffold

open LiveSession.Files

/-- The installed bridge template, relative to the assets directory. -/
def templateAsset : String := "nestjs/hmrEntry.ts.tmpl"

/-- The installed helper scope, relative to the assets directory. -/
def scopeAsset : String := "nestjs/bridgeScope.js"

/-- The installed type declarations, relative to the assets directory. -/
def typeDeclAsset : String := "nestjs/nestjsTypeDef.d.ts"

/-- What a synthesis wrote. -/
structure Report where
  bridgeSource : String
  bridgeScope : String
  typeDecl : Option String
  symbol : String
  importPath : String
  deriving DecidableEq, Repr

/-- The checks before anything is written: the main module, the template text, the helper scope
asset and the rendered bridge. -/
def prepareBridge (t : Tree) (ctx : Context) : Except SynthesisError (String × RenderedBridge) := do
  let root ← match ctx.compositionRoot with
    | some r => pure r
    | none => throw (.compositionRootMissing "")
  if !t.isFile root then throw (.compositionRootMissing root)
  let templatePath := Path.join ctx.assetsDir templateAsset
  if !t.isFile templatePath then throw (.templateNotFound templatePath)
  let text ← match t.readText templatePath with
    | .ok s => pure s
    | .error e => throw (.read templatePath e)
  let scope := Path.join ctx.assetsDir scopeAsset
  if !t.isFile scope then throw (.assetNotFound scope)
  let bridge ← renderBridge text ctx.layout root
  return (scope, bridge)

/-- Runs one tree step, turning its error into a write error on `path`. -/
def writeStep (path : String) (r : Except IoError Tree) : Except SynthesisError Tree :=
  match r with
  | .ok t => .ok t
  | .error e => .error (.write path e)

/-- Writes the bridge files; the tree keeps every write made before a failure. -/
def synthesize (t : Tree) (ctx : Context) : Tree × Except SynthesisError Report :=
  match prepareBridge t ctx with
  | .error e => (t, .error e)
  | .ok (scope, bridge) =>
    let layout := ctx.layout
    match writeStep layout.dir (t.createDirAll layout.dir) with
    | .error e => (t, .error e)
    | .ok t =>
      match writeStep layout.bridgeSource (t.writeText layout.bridgeSource bridge.rendered) with
      | .error e => (t, .error e)
      | .ok t =>
        match writeStep layout.bridgeScope (t.copy scope layout.bridgeScope) with
        | .error e => (t, .error e)
        | .ok t =>
          let declAsset := Path.join ctx.assetsDir typeDeclAsset
          let report (decl : Option String) : Report :=
            ⟨layout.bridgeSource, layout.bridgeScope, decl, bridge.symbol, bridge.importPath⟩
          if t.isFile declAsset then
            match writeStep layout.typeDecl (t.copy declAsset layout.typeDecl) with
            | .error e => (t, .error e)
            | .ok t => (t, .ok (report (some layout.typeDecl)))
          else (t, .ok (report none))

end LiveSession.Scaffold
