import Accounts.Net.Url
import Accounts.Settings.Basic
import Accounts.Users.Fault

/-!
# The address of the database

* `DatabaseSettings.address`: the address that the settings name, or why there is none.
-/

namespace Accounts

/-- The address of the database. -/
def DatabaseSettings.address (s : DatabaseSettings) : Except UserStoreFault Net.Url :=
  match s.url with
  | none => .error (.connection "database.url is not set")
  | some url =>
    (Net.Url.parse url).mapError fun f => .connection (DriverFault.configuration f.message).message

end Accounts
