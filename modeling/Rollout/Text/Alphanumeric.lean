import Rollout.Text.Alphanumeric.Table
import Rollout.Text.Case

namespace Rollout.Text

def isAlphanumeric (c : Char) : Bool := c.isAlphanum || Case.inRanges alphanumericRanges c.toNat

end Rollout.Text
