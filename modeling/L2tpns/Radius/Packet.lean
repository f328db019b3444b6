import L2tpns.Foundation.Tlv
import L2tpns.Radius.UserPassword

/-! # Packets that are written with a pointer

`radiussend` writes an attribute at a pointer and moves the pointer by the length byte that
it has just written. What is before the pointer stays, and an attribute whose length byte is
right is added to it (`L2tpns.Radius.Adds`).
-/

namespace L2tpns.Radius

open Foundation
open Avp (Memory readBytes readBytes_append readBytes_congr writeBytes)

/-- Where the attributes of a packet begin. -/
def headerSize : Nat := 20

/-- Two bytes in network order. -/
def be16 (n : Nat) : List UInt8 := [UInt8.ofNat (n / 2 ^ 8), UInt8.ofNat n]

/-- Four bytes in network order. -/
def be32 (n : UInt32) : List UInt8 :=
  be16 (n.toNat / 2 ^ 16) ++ be16 n.toNat

@[simp]
theorem be16_length (n : Nat) : (be16 n).length = 2 := rfl

@[simp]
theorem be32_length (n : UInt32) : (be32 n).length = 4 := rfl

/-- The number that `htonl` returns, which is another one where the low byte comes first. -/
def htonl (bigEndian : Bool) (n : Nat) : Nat :=
  if bigEndian then n % 2 ^ 32
  else n % 2 ^ 8 * 2 ^ 24 + n / 2 ^ 8 % 2 ^ 8 * 2 ^ 16 + n / 2 ^ 16 % 2 ^ 8 * 2 ^ 8 +
    n / 2 ^ 24 % 2 ^ 8

/-- A buffer with a pointer into it, and how far it was written. -/
structure Writer where
  memory : Memory
  p : Nat
  top : Nat

/-- Write an attribute, and move on by its length byte. -/
def Writer.put (writer : Writer) (type length : UInt8) (value : List UInt8) : Writer where
  memory := writeBytes writer.memory writer.p (type :: length :: value)
  p := writer.p + length.toNat
  top := max writer.top (writer.p + 2 + value.length)

/-- An attribute of six bytes that is a number. -/
def Writer.putNumber (writer : Writer) (type : UInt8) (number : UInt32) : Writer :=
  writer.put type 6 (be32 number)

/-- `strcpy` of a string behind its length; the terminator is written too. -/
def Writer.putString (writer : Writer) (type : UInt8) (text : List UInt8) : Writer :=
  writer.put type (UInt8.ofNat (text.length + 2)) (text ++ [0])

/-- A Cisco-AVPair. The length of the pair is a byte, and that of the attribute is computed
from it. -/
def Writer.putAvpair (writer : Writer) (text : List UInt8) : Writer :=
  let length := UInt8.ofNat (2 + text.length)
  writer.put 26 (length + 6) (be32 9 ++ [1, length] ++ text ++ [0])

/-- A step is taken only under a condition. -/
def Writer.putIf (condition : Prop) [Decidable condition] (step : Writer → Writer)
    (writer : Writer) : Writer :=
  if condition then step writer else writer

/-- These attributes were written, and little behind them. -/
structure Writer.Holds (writer : Writer) (items : List Tlv) : Prop where
  area : readBytes writer.memory headerSize (Tlv.encodeAll items).length = Tlv.encodeAll items
  pointer : writer.p = headerSize + (Tlv.encodeAll items).length
  top : writer.top ≤ writer.p + 6

/-- A step adds attributes to what was written, which take no more than some bytes. -/
structure Adds (step : Writer → Writer) (items : List Tlv) (most : Nat) : Prop where
  holds : ∀ writer before, Writer.Holds writer before → (step writer).Holds (before ++ items)
  fits : ∀ item ∈ items, item.Fits
  size : (Tlv.encodeAll items).length ≤ most

variable {step : Writer → Writer} {items : List Tlv} {most : Nat}

theorem Adds.id (most : Nat) : Adds (fun writer => writer) [] most where
  holds writer before holds := by rwa [List.append_nil]
  fits := nofun
  size := Nat.zero_le most

theorem Adds.putIf {condition : Prop} [Decidable condition]
    (adds : condition → Adds step items most) :
    Adds (Writer.putIf condition step) (if condition then items else []) most := by
  by_cases holdsCondition : condition
  · have same : Writer.putIf condition step = step := by
      funext writer
      rw [Writer.putIf, if_pos holdsCondition]
    rw [same, if_pos holdsCondition]
    exact adds holdsCondition
  · have same : Writer.putIf condition step = fun writer => writer := by
      funext writer
      rw [Writer.putIf, if_neg holdsCondition]
    rw [same, if_neg holdsCondition]
    exact .id most

theorem Adds.then {next : Writer → Writer} {more : List Tlv} {most' : Nat}
    (adds : Adds step items most) (later : Adds next more most') :
    Adds (fun writer => next (step writer)) (items ++ more) (most + most') where
  holds writer before holds := by
    rw [← List.append_assoc]
    exact later.holds _ _ (adds.holds writer before holds)
  fits item member :=
    (List.mem_append.mp member).elim (adds.fits item) (later.fits item)
  size := by
    rw [Tlv.encodeAll_append, List.length_append]
    exact Nat.add_le_add adds.size later.size

theorem readBytes_before (memory : Memory) (b n : Nat) (bytes : List UInt8) :
    readBytes (writeBytes memory (b + n) bytes) b n = readBytes memory b n := by
  refine readBytes_congr fun k inside => ?_
  rw [writeBytes, if_neg (by omega)]

theorem Adds.put (type length : UInt8) (value behind : List UInt8)
    (fits : length.toNat = value.length + 2) (few : behind.length ≤ 6) :
    Adds (fun writer => writer.put type length (value ++ behind)) [⟨type, value⟩]
      (value.length + 2) := by
  have byte : UInt8.ofNat (value.length + 2) = length := by
    rw [← fits, UInt8.ofNat_toNat]
  have item : Tlv.encodeAll [⟨type, value⟩] = type :: length :: value := by
    simp [Tlv.encode, byte]
  refine ⟨fun writer before holds => ⟨?_, ?_, ?_⟩, fun other member => ?_, ?_⟩
  · simp only [Writer.put]
    rw [Tlv.encodeAll_append, item, List.length_append, readBytes_append, holds.pointer,
      readBytes_before, holds.area]
    congr 1
    exact Avp.readBytes_writeBytes writer.memory _ [] (type :: length :: value) behind
  · simp only [Writer.put]
    rw [Tlv.encodeAll_append, item, holds.pointer, fits, List.length_append]
    simp only [List.length_cons]
    omega
  · have top := holds.top
    simp only [Writer.put, fits, List.length_append]
    omega
  · have bound := length.toNat_lt
    rw [List.mem_singleton.mp member]
    change value.length ≤ 253
    omega
  · rw [item]
    simp

theorem Adds.putNumber (type : UInt8) (number : UInt32) :
    Adds (fun writer => writer.putNumber type number) [⟨type, be32 number⟩] 6 := by
  have adds := Adds.put type 6 (be32 number) [] rfl (by simp)
  rwa [List.append_nil] at adds

theorem Adds.putString (type : UInt8) (text : List UInt8) (short : text.length ≤ 253) :
    Adds (fun writer => writer.putString type text) [⟨type, text⟩] (text.length + 2) := by
  refine Adds.put type _ text [0] ?_ (by simp)
  rw [UInt8.toNat_ofNat']
  omega

/-- The value of a Cisco-AVPair. -/
def avpair (text : List UInt8) : List UInt8 :=
  be32 9 ++ [1, UInt8.ofNat (2 + text.length)] ++ text

theorem avpair_length (text : List UInt8) : (avpair text).length = text.length + 6 := by
  simp only [avpair, List.length_append, be32_length, List.length_cons, List.length_nil]
  omega

theorem Adds.putAvpair (text : List UInt8) (short : text.length ≤ 247) :
    Adds (fun writer => writer.putAvpair text) [⟨26, avpair text⟩] (text.length + 8) := by
  have adds := Adds.put 26 (UInt8.ofNat (2 + text.length) + 6) (avpair text) [0] (by
    rw [avpair_length, UInt8.toNat_add, UInt8.toNat_ofNat']
    change ((2 + text.length) % 2 ^ 8 + 6) % 2 ^ 8 = _
    omega) (by simp)
  rwa [avpair_length] at adds

theorem Adds.overwritten (type : UInt8) (value : List UInt8) (few : value.length ≤ 4)
    (most : Nat) : Adds (fun writer => writer.put type 0 value) [] most := by
  refine ⟨fun writer before holds => ?_, nofun, Nat.zero_le most⟩
  rw [List.append_nil]
  refine ⟨?_, ?_, ?_⟩
  · simp only [Writer.put]
    rw [holds.pointer, readBytes_before, holds.area]
  · simp [Writer.put, holds.pointer]
  · have top := holds.top
    simp only [Writer.put, UInt8.toNat_zero]
    omega

theorem Adds.mono {more : Nat} (adds : Adds step items most) (less : most ≤ more) :
    Adds step items more :=
  ⟨adds.holds, adds.fits, Nat.le_trans adds.size less⟩

theorem Adds.each {Item : Type} (members : List Item) (next : Item → Writer → Writer)
    (item : Item → Tlv) (adds : ∀ member ∈ members, Adds (next member) [item member] most) :
    Adds (fun writer => members.foldl (fun writer member => next member writer) writer)
      (members.map item) (members.length * most) := by
  induction members with
  | nil => exact .id _
  | cons member members ih =>
      have first := adds member List.mem_cons_self
      have rest := ih fun other inside => adds other (List.mem_cons_of_mem member inside)
      refine (first.then rest).mono ?_
      rw [List.length_cons, Nat.add_mul]
      omega

end L2tpns.Radius
