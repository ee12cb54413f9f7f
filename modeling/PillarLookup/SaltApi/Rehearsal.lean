import PillarLookup.Json.Reader
import PillarLookup.SaltApi.Server

/-!
# Rehearsals

A server's script as JSON: an object with a list of replies for each task. A
reply gives its status, its body as text or as hexadecimal digits and its delay
in milliseconds, or says that it stalls or drops the connection. What is left
out stands for a quick success.
-/

namespace PillarLookup.SaltApi.Rehearsal

def natD (value : Json) (key : String) (fallback : Nat) : Nat :=
  match value.get? key with
  | some (.int number) => number.toNat
  | _ => fallback

def isSet (value : Json) (key : String) : Bool :=
  match value.get? key with
  | some (.bool set) => set
  | _ => false

/-- The bytes that pairs of hexadecimal digits spell, up to the first pair that spells none. -/
def hexBytes : List Char → List UInt8
  | high :: low :: rest =>
      match Json.hexValue? high, Json.hexValue? low with
      | some upper, some lower => UInt8.ofNat (upper * 16 + lower) :: hexBytes rest
      | _, _ => []
  | _ => []

def body (value : Json) : List UInt8 :=
  match value.get? "body_hex", value.get? "body" with
  | some (.str digits), _ => hexBytes digits.toList
  | _, some (.str text) => Text.Utf8.encode text
  | _, _ => []

def reply (value : Json) : Reply :=
  if isSet value "stall" then .stall
  else if isSet value "drop" then .drop
  else .answer (natD value "delay_ms" 0) (natD value "status" 200) (body value)

def quickSuccess (text : String) : Reply :=
  .answer 0 200 (Text.Utf8.encode text)

/-- The script of one task; a list that is left out is one reply. -/
def script (value : Json) (key : String) (only : Reply) : Script Reply :=
  match value.get? key with
  | some (.arr replies) => .ofList only (replies.map reply)
  | _ => .ofList only [only]

def nothingPublished : Reply :=
  quickSuccess "\x7b\"return\":[\x7b\x7d]\x7d"

def tokenGranted : Reply :=
  quickSuccess "\x7b\"return\":[\x7b\"token\":\"tok\"\x7d]\x7d"

def server (value : Json) : Server :=
  ⟨script value "login" tokenGranted, script value "publish" nothingPublished,
    script value "lookup" nothingPublished⟩

end PillarLookup.SaltApi.Rehearsal
