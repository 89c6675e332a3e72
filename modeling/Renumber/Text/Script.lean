import Renumber.Text.Script.FromAdlam
import Renumber.Text.Script.FromHan
import Renumber.Text.Script.FromOgham
import Renumber.Text.Script.Shared

/-!
# Scripts

Every character belongs to one script, is shared by several or takes the script of its neighbour;
only characters that are not assigned have none.
-/

namespace Renumber.Text

/-! ## Algorithm -/

def scripts : List Script := scriptsFromAdlam ++ scriptsFromHan ++ scriptsFromOgham ++ sharedScripts

namespace Script

/-- The script with this name or code. -/
def named? (name : String) : Option Script := scripts.find? fun s => s.names.contains name

end Script

end Renumber.Text
