import Mathlib.Data.List.Sort
import Mathlib.Data.String.Basic
import WalletManager.Audit.Emitter
import WalletManager.Codec.JsonText

/-!
# The JSON of an audit payload

What `json.Marshal` makes of the payload of an event, a `map[string]any` of strings, numbers, flags and
lists of strings.
-/

namespace WalletManager

open JsonText

def jsonString (s : String) : List Char := quote :: escaped s.toList

def AuditValue.json : AuditValue → List Char
  | text s => jsonString s
  | int n => (toString n).toList
  -- The list of a withdrawal without reserved outputs is a nil slice.
  | texts [] => "null".toList
  | texts l => '[' :: joined ']' (l.map jsonString)
  | bool b => (toString b).toList

def jsonField (f : String × AuditValue) : List Char := jsonString f.1 ++ ':' :: f.2.json

/-- The fields of a map are written in the order of their keys. -/
def payloadJSON (payload : List (String × AuditValue)) : List Char :=
  '\x7b' :: joined '\x7d' ((payload.insertionSort (fun a b => a.1.toList ≤ b.1.toList)).map jsonField)

def jsonEmitter : EmitterService where
  marshal payload := .ok (utf8 (String.ofList (payloadJSON payload)))

example : payloadJSON [("to", .text "a&b"), ("nonce", .int (-7)), ("utxos", .texts ["x:0", "y:1"])] =
    "\x7b\"nonce\":-7,\"to\":\"a\\u0026b\",\"utxos\":[\"x:0\",\"y:1\"]\x7d".toList := by decide +kernel

end WalletManager
