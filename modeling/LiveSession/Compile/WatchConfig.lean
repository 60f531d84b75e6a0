import LiveSession.Context
import LiveSession.Files.Tree
import LiveSession.Config.Basic
import LiveSession.Json.Decode
/-!
# The watch compiler's configuration

The watch driver gets one JSON object on its first input line: the bridge source as the sole
entry, the scratch directory and file name for the bundle, the framework packages left to be
required from the user's install, the module lookup roots (the project's own dependencies
first), the source extensions, the project's `tsconfig.json` when it is a regular file, the
hot-update and debounce timings, the optional filesystem polling interval, and the project
directory that relative paths resolve against. Keys are written in camel case, and the two
optional ones are left out when absent.
-/

namespace LiveSession.Compile

open LiveSession.Json LiveSession.Files

/-- Framework packages resolved from the user's install at run time. -/
def frameworkExternals : List String :=
  ["@nestjs/core", "@nestjs/common", "@nestjs/platform-express", "@nestjs/platform-fastify"]

/-- The watch driver script, relative to the assets directory. -/
def watchDriver : String := "webpack/watch-driver.js"

/-- The directory holding a project's installed packages. -/
def dependencyDir : String := "node_modules"

/-- Everything the watch driver needs to build the bridge. -/
structure WatchConfig where
  entry : String
  outputDir : String
  outputFilename : String
  externals : List String
  resolveModules : List String
  extensions : List String
  tsConfig : Option String
  hot : Bool
  hotPollMs : Nat
  aggregateTimeoutMs : Nat
  pollMs : Option Nat
  context : String
  deriving DecidableEq, Repr

namespace WatchConfig

/-- The configuration that builds a session's bridge source with the given build settings. -/
def forSession (t : Tree) (ctx : Context) (build : Config.Build) : WatchConfig :=
  let wd := ctx.workingDirectory
  let tsConfig := Path.join wd "tsconfig.json"
  { entry := ctx.layout.bridgeSource
    outputDir := ctx.layout.dir
    outputFilename := artifactFile
    externals := frameworkExternals
    resolveModules := [Path.join wd dependencyDir, dependencyDir]
    extensions := [".ts", ".js"]
    tsConfig := if t.isFile tsConfig then some tsConfig else none
    hot := true
    hotPollMs := build.hotPollMs
    aggregateTimeoutMs := build.aggregateTimeoutMs
    pollMs := build.pollMs
    context := wd }

/-- Where the bundle lands. -/
def artifactPath (c : WatchConfig) : String := Path.join c.outputDir c.outputFilename

/-- The configuration as the watch driver reads it. -/
def toJson (c : WatchConfig) : Value :=
  .obj ([("entry", .str c.entry), ("outputDir", .str c.outputDir),
    ("outputFilename", .str c.outputFilename), ("externals", Value.strs c.externals),
    ("resolveModules", Value.strs c.resolveModules), ("extensions", Value.strs c.extensions)] ++
    (match c.tsConfig with
     | some p => [("tsConfig", .str p)]
     | none => []) ++
    [("hot", .bool c.hot), ("hotPollMs", Value.nat c.hotPollMs),
     ("aggregateTimeoutMs", Value.nat c.aggregateTimeoutMs)] ++
    (match c.pollMs with
     | some n => [("pollMs", Value.nat n)]
     | none => []) ++
    [("context", .str c.context)])

/-- A path: any string. -/
def pathDecoder : Decoder String
  | .str s => .ok s
  | v => .error (.invalidType v.found "path string")

/-- Reads a configuration back. -/
def decode : Decoder WatchConfig := fun v => do
  let strs := Decoder.list Decoder.string
  let raw ← readRecord "WatchConfig"
    [.of "entry" pathDecoder .required, .of "outputDir" pathDecoder .required,
     .of "outputFilename" Decoder.string .required, .of "externals" strs .required,
     .of "resolveModules" strs .required, .of "extensions" strs .required,
     .of "tsConfig" (Decoder.option pathDecoder) .defaulted, .of "hot" Decoder.bool .required,
     .of "hotPollMs" Decoder.u64 .required, .of "aggregateTimeoutMs" Decoder.u64 .required,
     .of "pollMs" (Decoder.option Decoder.u64) .defaulted, .of "context" pathDecoder .required] v
  return { entry := member raw 0 pathDecoder "", outputDir := member raw 1 pathDecoder ""
           outputFilename := member raw 2 Decoder.string "", externals := member raw 3 strs []
           resolveModules := member raw 4 strs [], extensions := member raw 5 strs []
           tsConfig := member raw 6 (Decoder.option pathDecoder) none
           hot := member raw 7 Decoder.bool false, hotPollMs := member raw 8 Decoder.u64 0
           aggregateTimeoutMs := member raw 9 Decoder.u64 0
           pollMs := member raw 10 (Decoder.option Decoder.u64) none
           context := member raw 11 pathDecoder "" }

end WatchConfig

/-- Reads build settings, every absent one taking its default. -/
def decodeBuild : Decoder Config.Build := fun v => do
  let raw ← readRecord "BuildConfig"
    [.of "node" Decoder.string .defaulted, .of "aggregate_timeout_ms" Decoder.u64 .defaulted,
     .of "hot_poll_ms" Decoder.u64 .defaulted,
     .of "poll_ms" (Decoder.option Decoder.u64) .defaulted] v
  return { node := member raw 0 Decoder.string "node"
           aggregateTimeoutMs := member raw 1 Decoder.u64 300
           hotPollMs := member raw 2 Decoder.u64 1000
           pollMs := member raw 3 (Decoder.option Decoder.u64) none }

end LiveSession.Compile
