import Pushdown.Backend.Kind
import Pushdown.Connection.Identity
import Pushdown.Query.Native
import Pushdown.Text.Blank

/-!
# Configuration of a search cluster

Where a cluster is reached and with which credentials, and how long it is asked to keep a scroll
open between pages. The identity of a connection covers the place and the credentials, a missing
one counting as empty; reports do not show the password.
-/

namespace Pushdown

namespace Cluster

/-- How a cluster is reached. -/
structure Config where
  url : String
  username : Option String
  password : Option String
  keepAlive : String
  deriving DecidableEq, Repr, Inhabited

namespace Config

/-- A cluster at an address, without credentials. Slashes at the end of it are dropped. -/
def ofUrl (url : String) : Config :=
  { url := Text.trimEndOf '/' url, username := none, password := none, keepAlive := "1m" }

/-- The configuration with credentials. -/
def withCredentials (c : Config) (username password : String) : Config :=
  { c with username := some username, password := some password }

/-- The identity of connections to the cluster. -/
def identity (c : Config) : Identity :=
  .ofParts
    [ ("backend", BackendKind.elasticsearch.name), ("url", c.url),
      ("user", c.username.getD ""), ("password", c.password.getD "") ]

/-- The configuration as reports for operators show it. -/
def describe (c : Config) : String :=
  "ElasticsearchConfig \x7b url: " ++ Text.shown c.url
    ++ ", username: " ++ Text.shownOption c.username
    ++ ", password: " ++ Text.shownOption (c.password.map fun _ => "***")
    ++ ", scroll_keep_alive: " ++ Text.shown c.keepAlive ++ " \x7d"

end Config

/-- The path of a search. One that reads rows page by page keeps a scroll open. -/
def searchPath (index : String) (mode : SearchMode) (keepAlive : String) : String :=
  "/" ++ index ++ "/_search"
    ++ match mode with
      | .hits true => "?scroll=" ++ keepAlive
      | _ => ""

end Cluster

end Pushdown
