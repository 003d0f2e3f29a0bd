import ChatSession.Schema.Check

/-!
Client settings: paging of the user directory, the log level, and the
recorded backend that the command line replays.

Both page counts are at least one, which the type records.
-/

namespace ChatSession

/-- Settings of a client. -/
structure ClientConfig where
  usersPerPage : Nat := 100
  usersMaxPages : Nat := 10
  logLevel : String := "INFO"
  fixture : Option String := none
  usersPerPage_pos : 0 < usersPerPage := by decide
  usersMaxPages_pos : 0 < usersMaxPages := by decide

namespace ClientConfig

/-- A count of at least one. -/
def positive : Check {n : Nat // 0 < n} := fun v =>
  (Check.int v).andThen fun n =>
    if h : 1 ≤ n then .ok ⟨n.toNat, by omega⟩ else Check.fail (.greaterThanEqual 1) v

def build (perPage maxPages : {n : Nat // 0 < n}) (level : String) (fixture : Option String) :
    ClientConfig :=
  ⟨perPage.1, maxPages.1, level, fixture, perPage.2, maxPages.2⟩

def check : Check ClientConfig :=
  Check.fields "ClientConfig" fun kvs =>
    build <$> Check.field kvs "users_per_page" ⟨100, by decide⟩ positive
      <*> Check.field kvs "users_max_pages" ⟨10, by decide⟩ positive
      <*> Check.field kvs "log_level" "INFO" Check.str
      <*> Check.field kvs "fixture" none (Check.optional Check.str)

/-- The settings as data, fields in declaration order. -/
def toValue (c : ClientConfig) : Value :=
  .obj [("users_per_page", .int c.usersPerPage), ("users_max_pages", .int c.usersMaxPages),
    ("log_level", .str c.logLevel),
    ("fixture", match c.fixture with | some f => .str f | none => .null)]

end ClientConfig

end ChatSession
