import ChatSession.Config.Client
import ChatSession.Data.Yaml

/-!
Settings documents: the YAML file a client reads its settings from, and the
environment variables that override them.

A settings document is a mapping; a missing file, text that is no YAML, or a
document of another shape counts as no settings at all. A well-formed
document whose scalar does not read as its type (a day past the month's end,
an integer under the `int` tag with a stray letter), or that nests too deep,
is reported. The client's
settings are its `client` section (a section that is empty, missing or no
mapping counts as none), then each override variable that is set and not
empty replaces its setting, as text. The result is checked like any other
settings, so an override that is no count is reported as such.
-/

namespace ChatSession

/-- Why a settings document gives no client settings. -/
inductive SettingsError where
  | keyNotText
  | invalid (report : Report)
  | halted (h : Halt)
  | document (e : YamlError)
deriving Inhabited

def SettingsError.message : SettingsError → String
  | .keyNotText => "keywords must be strings"
  | .invalid r => r.text
  | .halted h => h.message
  | .document e => e.message

namespace Settings

/-- The settings a client ships with. -/
def shipped : String :=
  "client:\n  users_per_page: 100\n  users_max_pages: 10\n  log_level: INFO\n"

/-- The entries of a settings document, if there is one: text that is no
YAML counts as no document, but a fault other than one of syntax is reported. -/
def entries (text : Option String) : Except YamlError (List (Value × Value)) :=
  match text.map Value.ofYaml with
  | some (.ok (.dict kvs)) => .ok kvs
  | some (.error e) => if e.isSyntax then .ok [] else .error e
  | _ => .ok []

/-- The client section of settings entries. -/
def clientSection (kvs : List (Value × Value)) : List (Value × Value) :=
  match Value.field? kvs "client" with
  | some (.dict part) => part
  | _ => []

/-- Environment variables that override a setting, each with the setting it names. -/
def overrides : List (String × String) :=
  [("MMDESK_LOG_LEVEL", "log_level"), ("MMDESK_USERS_PER_PAGE", "users_per_page"),
    ("MMDESK_FIXTURE", "fixture")]

/-- Apply the overrides that `env` sets to something not empty. -/
def withEnvironment (env : String → Option String) (kvs : List (Value × Value)) :
    List (Value × Value) :=
  overrides.foldl (fun acc (var, setting) =>
    match env var with
    | some v => if v.isEmpty then acc else Value.assign acc (.str setting) (.str v)
    | none => acc) kvs

/-- Whether a key can name a setting. -/
def isTextKey : Value → Bool
  | .str _ => true
  | _ => false

/-- The client settings of a settings document under an environment. -/
def clientConfig (text : Option String) (env : String → Option String) :
    Except SettingsError ClientConfig := do
  let kvs ← (entries text).mapError .document
  let values := withEnvironment env (clientSection kvs)
  if !values.all (isTextKey ·.1) then .error .keyNotText
  else match ClientConfig.check (.dict values) with
    | .ok c => .ok c
    | .invalid issues => .error (.invalid ⟨"ClientConfig", issues⟩)
    | .halted h => .error (.halted h)

end Settings

end ChatSession
