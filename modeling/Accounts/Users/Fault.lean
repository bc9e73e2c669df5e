import Accounts.Decimal.Natural

/-!
# What can go wrong in a store of users

* `DriverFault`: what a database driver reports;
* `UserStoreFault`: what a store of users reports;
* `UserStoreFault.ofDriver`: the one as the other.
-/

namespace Accounts

/-- What a database driver reports. -/
inductive DriverFault
  | rowNotFound
  | poolTimedOut
  | poolClosed
  | workerCrashed
  | protocol (text : String)
  | columnNotFound (name : String)
  | database (code : Option String) (text : String)
  | configuration (text : String)
  | other (text : String)

/-- The wording of a driver's report. -/
def DriverFault.message : DriverFault → String
  | .rowNotFound => "no rows returned by a query that expected to return at least one row"
  | .poolTimedOut => "pool timed out while waiting for an open connection"
  | .poolClosed => "attempted to acquire a connection on a closed pool"
  | .workerCrashed => "attempted to communicate with a crashed background worker"
  | .protocol text => "encountered unexpected or invalid data: " ++ text
  | .columnNotFound name => "no column found for name: " ++ name
  | .database _ text => "error returned from database: " ++ text
  | .configuration text => "error with configuration: " ++ text
  | .other text => text

/-- What the steps of a schema report. -/
inductive MigrationFault
  | missing (version : Int)
  | unfinished (version : Int)

/-- The wording of a schema's report. -/
def MigrationFault.message : MigrationFault → String
  | .missing version =>
    "migration " ++ Decimal.ofInt version ++
      " was previously applied but is missing in the resolved migrations"
  | .unfinished version =>
    "migration " ++ Decimal.ofInt version ++
      " is partially applied; fix and remove row from \x60_sqlx_migrations\x60 table"

/-- What a store of users reports. -/
inductive UserStoreFault
  | connection (text : String)
  | query (text : String)
  | notFound (text : String)
  | duplicate (text : String)
  | invalidData (text : String)
  | migration (text : String)
  | poolExhausted
  deriving DecidableEq

namespace UserStoreFault

/-- The wording of a store's report. -/
def message : UserStoreFault → String
  | .connection text => "Database connection error: " ++ text
  | .query text => "Query error: " ++ text
  | .notFound text => "Record not found: " ++ text
  | .duplicate text => "Duplicate record: " ++ text
  | .invalidData text => "Invalid data: " ++ text
  | .migration text => "Migration error: " ++ text
  | .poolExhausted => "Connection pool exhausted"

/-- The code under which a database reports that a value must be unique. -/
def uniqueViolation : String := "23505"

/-- A driver's report as a store's. -/
def ofDriver : DriverFault → UserStoreFault
  | .rowNotFound => .notFound "Row not found"
  | .poolTimedOut => .poolExhausted
  | .database code text => if code = some uniqueViolation then .duplicate text else .query text
  | f => .query f.message

/-- A schema's report as a store's. -/
def ofMigration (f : MigrationFault) : UserStoreFault := .migration f.message

end UserStoreFault

end Accounts
