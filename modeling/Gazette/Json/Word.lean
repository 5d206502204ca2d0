import Gazette.Json.Error
import Gazette.Text.Utf8

/-!
# The words of JSON

A value that starts with the first letter of `null`, `true` or `false` must go on as that word does.
-/

namespace Gazette.Json

def expectWord : Bytes → Bytes → Except JsonError Bytes
  | [], octets => .ok octets
  | _ :: _, [] => .error .endInValue
  | expected :: word, octet :: rest =>
    if octet = expected then expectWord word rest else .error .expectedWord

def expectNull : Bytes → Except JsonError Bytes := expectWord [0x75, 0x6C, 0x6C]

def expectTrue : Bytes → Except JsonError Bytes := expectWord [0x72, 0x75, 0x65]

def expectFalse : Bytes → Except JsonError Bytes := expectWord [0x61, 0x6C, 0x73, 0x65]

theorem length_of_expectWord {word octets rest : Bytes} (taken : expectWord word octets = .ok rest) :
    rest.length ≤ octets.length := by
  fun_induction expectWord word octets with
  | case1 => cases taken; exact Nat.le_refl _
  | case2 => cases taken
  | case3 _ _ _ inductionHypothesis => exact Nat.le_succ_of_le (inductionHypothesis taken)
  | case4 => cases taken

end Gazette.Json
