import TypeLineage.Project.Config

/-! # How the sources of a project are read

    The files come from a scan, so a project needs no configuration.  One that
    is named must load.  One that is merely found must load too, unless the
    complaint is that it takes in no file. -/

namespace TypeLineage.Project

/-- The configuration a project's sources are read under. -/
structure Setup where
  config : Option Place
  options : Options
  deriving Inhabited

/-- No configuration: scripts are left alone. -/
def Setup.plain : Setup := ⟨none, [("allowJs", .bool false)]⟩

/-- The first list stands somewhere in the second. -/
def occursIn (part : List Char) : List Char → Bool
  | [] => part.isEmpty
  | c :: cs => part.isPrefixOf (c :: cs) || occursIn part cs

/-- The complaint is, among other things, that no file is taken in. -/
def ConfigError.tellsNoInputs (e : ConfigError) : Bool :=
  occursIn noInputsWords.toList e.message.toList

/-- A loaded configuration as a setup. -/
def Setup.ofConfig (c : LoadedConfig) : Setup := ⟨some c.place, c.options⟩

/-- The setup of the project at `root`. -/
def setUp (t : FileTree) (root : Place) (path : Option String) : Except ConfigError Setup :=
  match path.filter (· ≠ "") with
  | some p => (loadConfig t root (some p)).map .ofConfig
  | none =>
    if (findConfig? t root).isNone then .ok .plain
    else match loadConfig t root none with
      | .ok c => .ok (.ofConfig c)
      | .error e => if e.tellsNoInputs then .ok .plain else .error e

namespace Setup

/-- The strictness that is asked for. -/
def strict? (s : Setup) : Option Bool := s.options.flag? "strict"

/-- Whether scripts are sources. -/
def allowJs? (s : Setup) : Option Bool := s.options.flag? "allowJs"

/-- Null and undefined are types of their own. -/
def strictNull (s : Setup) : Bool :=
  (s.options.flag? "strictNullChecks").getD (s.strict?.getD false)

end Setup

end TypeLineage.Project
