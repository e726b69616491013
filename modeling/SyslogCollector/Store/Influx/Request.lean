import SyslogCollector.Store.LineProtocol
import SyslogCollector.Store.SeriesQuery
import SyslogCollector.Text.Base64
import SyslogCollector.Text.FormEncoding
import SyslogCollector.Time.Duration
/-!
# InfluxDB: requests

A batch is posted as line protocol. A query is a statement in InfluxQL whose answer is asked for in
chunks, with times in nanoseconds.
-/

namespace SyslogCollector.Store.Influx

/-- The name and the password of a user. -/
structure Credentials where
  username : String
  password : Option String
  deriving DecidableEq, Repr

/-- How to reach an InfluxDB. -/
structure Options where
  /-- Where it is. -/
  url : String := "http://localhost:8086"
  /-- The database. -/
  database : String := "lumber"
  /-- Who asks, if that is to be said. -/
  credentials : Option Credentials := none
  /-- Whether certificates are taken on trust. -/
  insecureSkipVerify : Bool := false
  /-- How long connecting, or writing a batch, may take. -/
  timeout : Duration := .ofSeconds 30
  /-- How many rows a chunk of an answer may hold. -/
  chunkSize : Nat := 20000
  deriving DecidableEq, Repr

/-- What a request does. -/
inductive Method where
  | get | post
  deriving DecidableEq, Repr

/-- The word for a method. -/
def Method.name : Method → String
  | .get => "GET"
  | .post => "POST"

/-- A request. -/
structure Request where
  method : Method
  /-- Where it goes, without the query. -/
  url : String
  /-- The query, by names and values. -/
  query : List (String × String)
  /-- Who asks, if that is said. -/
  credentials : Option Credentials
  body : String
  deriving DecidableEq, Repr

/-- A place below the URL. Slashes at the end of the URL count for nothing. -/
def Options.place (o : Options) (name : String) : String :=
  String.ofList (o.url.toList.reverse.dropWhile (· = '/')).reverse ++ "/" ++ name

/-- The request that hands over a batch. -/
def writeRequest (o : Options) (batch : List Point) : Request where
  method := .post
  url := o.place "write"
  query := [("db", o.database), ("precision", "ns")]
  credentials := o.credentials
  body := LineProtocol.encode batch

/-- The request that sends a statement. -/
def queryRequest (o : Options) (statement : String) : Request where
  method := .get
  url := o.place "query"
  query := [("db", o.database), ("q", statement), ("epoch", "ns"), ("chunked", "true"),
    ("chunk_size", toString o.chunkSize)]
  credentials := o.credentials
  body := ""

/-- The statement that lists the applications. -/
def listStatement : String := "SHOW MEASUREMENTS"

namespace Request

/-- The path of a URL: what follows the host. -/
def pathOf (url : List Char) : List Char :=
  match url with
  | ':' :: '/' :: '/' :: rest => rest.dropWhile (· ≠ '/')
  | _ :: rest => pathOf rest
  | [] => []

/-- The path and the query as they are sent. -/
def target (r : Request) : String :=
  String.ofList (pathOf r.url.toList) ++ "?" ++ FormEncoding.encode r.query

/-- The header that says who asks. -/
def authorization (r : Request) : Option String :=
  r.credentials.map fun c =>
    "Basic " ++ String.ofList
      (Base64.encode (Utf8.encode (c.username ++ ":" ++ c.password.getD "")))

end Request

end SyslogCollector.Store.Influx
