import CatalogSearch.Catalog.Plugin

/-! # The plugin registry

The registered plugins by name, and the same plugins as hooks, which are called from the last one registered
to the first. A plugin that is registered under a name in use takes the place of the other one at the end. A
catalog is loaded by the plugin that is named or, without a name, by the only one that is sure enough.
-/

namespace CatalogSearch

open Number (Double)

/-- The registered plugins: by name, in the order of registration, and as hooks in the same order. -/
structure Registry where
  named : List (String × Plugin) := []
  hooks : List (String × Plugin) := []

/-- Why no plugin is chosen for a file. -/
inductive DetectionError where
  | noPlugins
  | noAnswers
  | unsure (name : String) (score : Double)
  | conflict (claims : List (String × Double))
  | badScore (error : ScoreError)
  deriving DecidableEq, Repr

def DetectionError.message (path : String) : DetectionError → String
  | .noPlugins => "No plugins registered. Cannot detect plugin for " ++ path
  | .noAnswers => "No plugin could analyze " ++ path
  | .unsure name score =>
    "No plugin has confidence >= 0.5 for " ++ path ++ ". Best match: " ++ name ++ " with confidence " ++
      score.twoPlaces
  | .conflict claims =>
    "Multiple plugins claim confidence >= 0.5 for " ++ path ++ ": " ++
      ", ".intercalate (claims.map fun (name, score) => name ++ " (" ++ score.twoPlaces ++ ")") ++
      ". Use --plugin to specify which plugin to use."
  | .badScore error => error.message

/-- Why a catalog is not loaded. -/
inductive LoadError where
  | detection (error : DetectionError)
  | unknownPlugin (name : String)
  | catalog (error : CatalogError)
  deriving DecidableEq, Repr

def LoadError.message (path : String) : LoadError → String
  | .detection error => error.message path
  | .unknownPlugin name => "Plugin '" ++ name ++ "' not found"
  | .catalog error => error.message path

namespace Registry

def names (registry : Registry) : List String :=
  registry.named.map Prod.fst

def find? (registry : Registry) (name : String) : Option Plugin :=
  registry.named.lookup name

def unregister (registry : Registry) (name : String) : Registry :=
  match registry.find? name with
  | some _ =>
    { named := registry.named.filter fun (other, _) => other != name
      hooks := registry.hooks.filter fun (other, _) => other != name }
  | none => registry

/-- Register a plugin, in place of one of the same name. -/
def register (registry : Registry) (plugin : Plugin) : Registry :=
  let others := registry.unregister plugin.name
  { named := others.named ++ [(plugin.name, plugin)]
    hooks := others.hooks ++ [(plugin.name, plugin)] }

/-- Register the plugins that could be found, and name them; one that is broken is skipped. -/
def discover (registry : Registry) (found : List (Option Plugin)) : Registry × List String :=
  let plugins := found.filterMap id
  (plugins.foldl register registry, plugins.map (·.name))

def installed : List (Option Plugin) :=
  [some Plugin.json]

def standard : Registry :=
  ((({} : Registry).register Plugin.json).discover installed).1

/-- What the hooks answer for a file, the last one registered first, without those that answer nothing. -/
def answers (registry : Registry) (files : Files) (path : PathName) : List Value :=
  (registry.hooks.reverse.map fun (_, plugin) => plugin.confidence files path).filter (!·.isNull)

/-- The scores of the plugins that answer, in the order of registration. -/
def scores (files : Files) (path : PathName) :
    List (String × Plugin) → Except DetectionError (List (String × Double))
  | [] => .ok []
  | (name, plugin) :: rest =>
    let answer := plugin.confidence files path
    if answer.isNull then scores files path rest
    else match Plugin.scoreOf answer with
      | .error error => .error (.badScore error)
      | .ok score => (scores files path rest).map ((name, score) :: ·)

/-- The least score of a plugin that is sure enough. -/
def threshold : Double :=
  .ofDecimal false 5 (-1)

def isSure (score : Double) : Bool :=
  threshold.less score || threshold.same score

def best (first : String × Double) (others : List (String × Double)) : String × Double :=
  others.foldl (fun top entry => if top.2.less entry.2 then entry else top) first

/-- Choose among scores: the only plugin that is sure. -/
def choose : List (String × Double) → Except DetectionError String
  | [] => .error .noAnswers
  | first :: others => match (first :: others).filter fun (_, score) => isSure score with
    | [] => let (name, score) := best first others; .error (.unsure name score)
    | [(name, _)] => .ok name
    | claims => .error (.conflict claims)

def detect (registry : Registry) (files : Files) (path : PathName) : Except DetectionError String :=
  if registry.named.isEmpty then .error .noPlugins
  else do
    let found ← scores files path registry.named
    choose found

/-- Load a catalog with the named plugin, or with the detected one. -/
def load (registry : Registry) (files : Files) (path : PathName) (plugin : Option String) :
    Except LoadError (List Book) := do
  let name ← match plugin.filter (· != "") with
    | some name => .ok name
    | none => (registry.detect files path).mapError .detection
  match registry.find? name with
  | some plugin => (plugin.load files path).mapError .catalog
  | none => .error (.unknownPlugin name)

end Registry

end CatalogSearch
