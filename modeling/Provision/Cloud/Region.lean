import Provision.Text.Segments

/-!
# Regions

The name of a region is made of lower-case letters, digits and hyphens, and its first two parts between hyphens are
not empty.
-/

namespace Provision.Region

/-- The region of a client for which none is chosen. -/
def usual : String := "ap-guangzhou"

/-- Whether a character can stand in the name of a region. -/
def isNameChar (c : Char) : Bool := c.isLower || c.isDigit || c == '-'

/-- Whether a text has the form of the name of a region. -/
def isName (s : String) : Bool :=
  match Text.Segments.split '-' s.toList with
  | area :: place :: _ => !area.isEmpty && !place.isEmpty && s.toList.all isNameChar
  | _ => false

/-- The regions that are offered for choice. -/
def known : List String := [
  "ap-guangzhou", "ap-shanghai", "ap-nanjing", "ap-beijing", "ap-chengdu", "ap-chongqing", "ap-hongkong",
  "ap-singapore", "ap-bangkok", "ap-jakarta", "ap-seoul", "ap-tokyo", "ap-mumbai", "na-siliconvalley", "na-ashburn",
  "eu-frankfurt", "sa-saopaulo"]

end Provision.Region
