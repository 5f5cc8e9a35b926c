/-!
# Kinds of backend

The five kinds of backend a request can be compiled for. `BackendKind.all` lists them in the
order in which they are reported.
-/

namespace Pushdown

/-- A kind of backend. -/
inductive BackendKind where
  | mysql
  | postgres
  | sqlserver
  | elasticsearch
  | mongodb
  deriving DecidableEq, Repr, Inhabited

namespace BackendKind

/-- Every kind. -/
def all : List BackendKind := [.mysql, .postgres, .sqlserver, .elasticsearch, .mongodb]

/-- The name of a kind. -/
def name : BackendKind → String
  | .mysql => "mysql"
  | .postgres => "postgres"
  | .sqlserver => "sqlserver"
  | .elasticsearch => "elasticsearch"
  | .mongodb => "mongodb"

/-- The name of a kind with a capital, as reports for operators show it. -/
def label : BackendKind → String
  | .mysql => "Mysql"
  | .postgres => "Postgres"
  | .sqlserver => "Sqlserver"
  | .elasticsearch => "Elasticsearch"
  | .mongodb => "Mongodb"

/-- The names a kind is known by, its own first. -/
def spellings : BackendKind → List String
  | .mysql => ["mysql", "mariadb"]
  | .postgres => ["postgres", "postgresql"]
  | .sqlserver => ["sqlserver", "mssql"]
  | .elasticsearch => ["elasticsearch", "es"]
  | .mongodb => ["mongodb", "mongo"]

/-- The kind a lower-case name spells. -/
def ofSpelling? (s : String) : Option BackendKind :=
  all.find? fun kind => kind.spellings.contains s

theorem mem_all (kind : BackendKind) : kind ∈ all := by
  cases kind <;> decide

/-- Every kind is found under each of its names. -/
theorem ofSpelling?_eq_some {kind : BackendKind} {s : String} (h : s ∈ kind.spellings) :
    ofSpelling? s = some kind := by
  cases kind <;> simp only [spellings, List.mem_cons, List.not_mem_nil, or_false] at h <;>
    rcases h with rfl | rfl <;> decide

end BackendKind

end Pushdown
