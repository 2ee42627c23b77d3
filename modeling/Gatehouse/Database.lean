import Gatehouse.Register.Sql
import Gatehouse.Settings

/-!
# The database

Opening the database creates it where it is missing, over a pool of connections of its own that is
given up again, and then creates the schema over the pool that stays. A pool whose schema could not
be created stays as well. Pools are numbered in the order in which they are first used.
-/

namespace Gatehouse.Database

/-!
## The schema

The tables of the register, and the index that the search for recent grants uses. Each statement
creates what is not there yet, so running them again changes nothing. The statements are laid out
over several lines.
-/

structure Table where
  name : String
  columns : List (String × String)
  deriving DecidableEq

def Table.creation (table : Table) : String :=
  "\n    CREATE TABLE IF NOT EXISTS " ++ table.name ++ " (\n      " ++
    ",\n      ".intercalate (table.columns.map fun (name, rule) => name ++ " " ++ rule) ++
    "\n    );\n  "

def createdAt : String × String := ("created_at", "TIMESTAMPTZ NOT NULL DEFAULT NOW()")

def users : Table :=
  { name := "users"
    columns := [
      ("id", "SERIAL PRIMARY KEY"),
      ("registration", "TEXT NOT NULL UNIQUE"),
      ("name", "TEXT NOT NULL DEFAULT ''"),
      ("active", "BOOLEAN NOT NULL DEFAULT TRUE"),
      ("valid_from", "TIMESTAMPTZ"),
      ("valid_until", "TIMESTAMPTZ"),
      ("allow_card", "BOOLEAN NOT NULL DEFAULT TRUE"),
      ("allow_biometric", "BOOLEAN NOT NULL DEFAULT FALSE"),
      ("allow_keypad", "BOOLEAN NOT NULL DEFAULT FALSE"),
      ("code", "TEXT UNIQUE"),
      createdAt] }

def cards : Table :=
  { name := "cards"
    columns := [
      ("id", "SERIAL PRIMARY KEY"),
      ("card_number", "TEXT NOT NULL UNIQUE"),
      ("registration", "TEXT NOT NULL"),
      ("user_id", "INTEGER REFERENCES users(id) ON DELETE CASCADE"),
      ("active", "BOOLEAN NOT NULL DEFAULT TRUE"),
      ("valid_from", "TIMESTAMPTZ"),
      ("valid_until", "TIMESTAMPTZ"),
      createdAt] }

def oneOf (column : String) (words : List String) : String × String :=
  (column, "TEXT NOT NULL CHECK (" ++ column ++ " IN (" ++
    ", ".intercalate (words.map fun word => "'" ++ word ++ "'") ++ "))")

def log : Table :=
  { name := "access_logs"
    columns := [
      ("id", "SERIAL PRIMARY KEY"),
      ("user_id", "INTEGER REFERENCES users(id) ON DELETE SET NULL"),
      ("registration", "TEXT"),
      ("credential", "TEXT NOT NULL"),
      oneOf "direction" ["ENTRY", "EXIT", "UNKNOWN"],
      oneOf "reader_type" ["CARD", "BIOMETRIC", "KEYPAD"],
      ("granted", "BOOLEAN NOT NULL"),
      ("display_message", "TEXT NOT NULL"),
      createdAt] }

def recentIndex : String :=
  "\n    CREATE INDEX IF NOT EXISTS access_logs_passback_idx" ++
    "\n      ON access_logs (user_id, direction, created_at DESC)" ++
    "\n      WHERE granted;\n  "

def schema : List String :=
  [users.creation, cards.creation, log.creation, recentIndex]

end Gatehouse.Database

namespace Gatehouse

/-! ## Opening the database -/

open Register

abbrev Answerer := Sql.Statement → Except Fault (List Sql.Row)

/-- What is asked of the database server: a pool is connected, a statement is run, with parameters
or without any, or a pool is given up. -/
inductive DatabaseCall where
  | connect (pool : Nat) (target : Settings.Database)
  | query (pool : Nat) (text : String) (parameters : Option (List Json))
  | finish (pool : Nat)

structure Database where
  pools : Nat
  current : Option Nat
  deriving DecidableEq

namespace Database

def closed : Database := { pools := 0, current := none }

structure Asked (Value : Type) where
  database : Database
  calls : List DatabaseCall
  result : Except Fault Value

def isNameChar (character : Char) : Bool :=
  character.isAlphanum || character == '_' || character == '-'

def plainName (name : String) : String :=
  String.ofList (name.toList.filter isNameChar)

def adminName : String := "postgres"

def existence : String :=
  "SELECT EXISTS(SELECT 1 FROM pg_database WHERE datname = $1) as exists"

def creation (name : String) : String :=
  "CREATE DATABASE \"" ++ name ++ "\""

/-- Runs statements without parameters one after another, up to the first that fails. -/
def runAll (answer : Answerer) (pool : Nat) : List String → List DatabaseCall × Except Fault Unit
  | [] => ([], .ok ())
  | text :: rest =>
      let call : DatabaseCall := .query pool text (some [])
      match answer { text := text, parameters := [] } with
      | .error fault => ([call], .error fault)
      | .ok _ =>
          let (calls, result) := runAll answer pool rest
          (call :: calls, result)

def ensureSchema (answer : Answerer) (pool : Nat) : List DatabaseCall × Except Fault Unit :=
  runAll answer pool schema

def ensureExists (answer : Answerer) (pool : Nat) (name : String) :
    List DatabaseCall × Except Fault Unit :=
  let parameters := [Json.text name]
  let asking : DatabaseCall := .query pool existence (some parameters)
  match answer { text := existence, parameters := parameters } with
  | .error fault => ([asking], .error fault)
  | .ok rows =>
      if rows.head?.any fun row => row.isTruthyAt "exists" then ([asking], .ok ())
      else
        ([asking, .query pool (creation name) none],
          (answer { text := creation name, parameters := [] }).map fun _ => ())

def init (database : Database) (answer : Answerer) (target : Settings.Database) : Asked Nat :=
  match database.current with
  | some pool => { database := database, calls := [], result := .ok pool }
  | none =>
      let name := plainName target.name
      let admin := database.pools + 1
      let (asking, exists?) := ensureExists answer admin name
      let before : List DatabaseCall :=
        .connect admin { target with name := adminName } :: asking ++ [.finish admin]
      match exists? with
      | .error fault =>
          { database := { database with pools := admin }, calls := before, result := .error fault }
      | .ok _ =>
          let pool := admin + 1
          let (creating, created) := ensureSchema answer pool
          { database := { pools := pool, current := some pool }
            calls := before ++ .connect pool { target with name := name } :: creating
            result := created.map fun _ => pool }

def query (answer : Answerer) (pool : Nat) (statement : Sql.Statement) :
    DatabaseCall × Except Fault (List Sql.Row) :=
  (.query pool statement.text (some statement.parameters), answer statement)

def close (database : Database) : Database × List DatabaseCall :=
  match database.current with
  | some pool => ({ database with current := none }, [.finish pool])
  | none => (database, [])

end Database

end Gatehouse
