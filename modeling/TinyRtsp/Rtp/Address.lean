import Mathlib.Data.FinEnum

/-! IPv4 addresses and their dotted text. A client's address reaches the RTP
handler as the text `inet_ntoa` made of it, and every packet converts it back
with `inet_pton`. -/
namespace TinyRtsp

structure Ipv4 where
  a : UInt8
  b : UInt8
  c : UInt8
  d : UInt8
  deriving DecidableEq

namespace Ipv4

def decimal (octet : UInt8) : List Char := Nat.toDigits 10 octet.toNat

def inetNtoa (address : Ipv4) : List Char :=
  ['.'].intercalate [decimal address.a, decimal address.b, decimal address.c, decimal address.d]

/-- One to three digits with no leading zero, at most 255. -/
def parseOctet (text : List Char) : Option UInt8 :=
  let value := text.foldl (fun value digit => value * 10 + (digit.toNat - '0'.toNat)) 0
  if text ≠ [] ∧ text.length ≤ 3 ∧ text.all Char.isDigit = true ∧
      (text.length = 1 ∨ text.head? ≠ some '0') ∧ value ≤ 255 then some (UInt8.ofNat value)
  else none

def inetPton (text : List Char) : Option Ipv4 :=
  match text.splitOn '.' with
  | [a, b, c, d] => do return ⟨← parseOctet a, ← parseOctet b, ← parseOctet c, ← parseOctet d⟩
  | _ => none

theorem parseOctet_decimal : ∀ octet : UInt8, parseOctet (decimal octet) = some octet := by
  decide +kernel

theorem dot_notMem_decimal : ∀ octet : UInt8, '.' ∉ decimal octet := by
  decide +kernel

theorem inetPton_inetNtoa (address : Ipv4) : inetPton (inetNtoa address) = some address := by
  have split : (inetNtoa address).splitOn '.' =
      [decimal address.a, decimal address.b, decimal address.c, decimal address.d] := by
    apply List.splitOn_intercalate
    · intro part member
      simp only [List.mem_cons, List.not_mem_nil, or_false] at member
      rcases member with rfl | rfl | rfl | rfl <;> apply dot_notMem_decimal
    · simp
  simp only [inetPton, split, parseOctet_decimal]
  rfl

end Ipv4
end TinyRtsp
