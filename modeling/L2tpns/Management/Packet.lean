import L2tpns.Foundation.Counted
import Mathlib.Data.List.TakeWhile

/-! # Packets of the control protocol

A request or a response is a type and a list of strings. What is packed is unpacked as it was,
each string cut to 511 bytes, exactly when the packet does not fit or no string has more than 255
bytes, for the length of a string is sent in one byte. Unpacking stays inside the packet, and
what it accepts is packed as it came (`L2tpns.Management.roundTrips_iff`).
-/

namespace L2tpns.Management

open Foundation

def nsctlMagic : Nat := 0x9013
def nsctlReqLoad : UInt8 := 0x11
def nsctlReqUnload : UInt8 := 0x12
def nsctlReqHelp : UInt8 := 0x13
def nsctlReqControl : UInt8 := 0x14
def nsctlResOk : UInt8 := 0x21
def nsctlResErr : UInt8 := 0x22
def nsctlMaxPktSz : Nat := 4096
def nsctlMaxArgSz : Nat := 512

/-- The types that `unpack_control` accepts. -/
def types : List UInt8 :=
  [nsctlReqLoad, nsctlReqUnload, nsctlReqHelp, nsctlReqControl, nsctlResOk, nsctlResErr]

/-- The errors of `unpack_control`. -/
inductive NsctlErr where
  | short
  | long
  | magic
  | type
deriving DecidableEq, Repr

/-- `struct nsctl`, with the copy of the packet that the pointers in `argv` point into. -/
structure Nsctl where
  type : UInt8
  argc : UInt8
  argv : List Nat
  pkt : List UInt8
deriving DecidableEq, Repr

/-- The string at an address of the packet. -/
def cString (bytes : List UInt8) : List UInt8 := bytes.takeWhile (· ≠ 0)

/-- The arguments. -/
def Nsctl.args (control : Nsctl) : List (List UInt8) :=
  control.argv.map fun p => cString (control.pkt.drop p)

/-- `len` when it was cut to the size of a packet; it is compared as an unsigned number. -/
def bufferSize (len : Int) : Nat :=
  if len < 0 ∨ (nsctlMaxPktSz : Int) < len then nsctlMaxPktSz else len.toNat

/-- The size of an argument, an `int` that was cut to the room for it. -/
def argSize (a : List UInt8) : Nat := min (a.length % 2 ^ 32) (nsctlMaxArgSz - 1)

/-- The loop of `pack_control`: `value` is what `arg.value` holds, `sz` bytes are written. -/
def packArgs (len : Nat) : (Nat → UInt8) → Nat → List (List UInt8) → Option (List UInt8)
  | _, _, [] => some []
  | value, sz, a :: argv =>
      let s := argSize a
      let argLen := UInt8.ofNat s
      if len < sz + (s + 1) then none
      else
        let value := fun i => if i < argLen.toNat then a.getD i 0 else value i
        (packArgs len value (sz + (s + 1)) argv).map fun rest =>
          argLen :: (List.range s).map value ++ rest

/-- `pack_control`; `value` is what the stack held where `arg.value` is. -/
def packControl (value : Nat → UInt8) (len : Int) (type : UInt8) (argv : List (List UInt8)) :
    Option (List UInt8) :=
  let len := bufferSize len
  let argv := argv.take 0xff
  (packArgs len value 4 argv).bind fun args =>
    if len < 4 + args.length + 1 then none
    else some ([0x90, 0x13, type, UInt8.ofNat argv.length] ++ args ++ [0xff])

/-- The loop of `unpack_control` with so many arguments to come, `sz` bytes behind the start of
the packet. There is no result where it leaves the packet. -/
def unpackArgs (len : Nat) :
    Nat → List UInt8 → Nat → List Nat → Option (Except NsctlErr (List Nat × List UInt8 × Nat))
  | more, pkt, sz, argv =>
      if len < sz + 1 then some (.error .short)
      else
        match pkt[sz]? with
        | none => none
        | some s =>
            let pkt := pkt.set sz 0
            let sz := sz + 1
            match more with
            | 0 => if s ≠ 0xff then some (.error .short) else some (.ok (argv, pkt, sz))
            | more + 1 =>
                if len < sz + s.toNat then some (.error .short)
                else unpackArgs len more pkt (sz + s.toNat) (argv ++ [sz])

/-- `unpack_control` -/
def unpackControl (data : List UInt8) : Option (Except NsctlErr Nsctl) :=
  if data.length < 4 then some (.error .short)
  else if nsctlMaxPktSz < data.length then some (.error .long)
  else
    match data with
    | high :: low :: type :: argc :: _ =>
        if high.toNat * 256 + low.toNat ≠ nsctlMagic then some (.error .magic)
        else if type ∉ types then some (.error .type)
        else
          (unpackArgs data.length argc.toNat data 4 []).map fun result =>
            result.bind fun (argv, pkt, sz) =>
              if sz ≠ data.length then .error .long else .ok ⟨type, argc, argv, pkt⟩
    | _ => none

def packetSize (argv : List (List UInt8)) : Nat :=
  4 + (argv.map fun a => argSize a + 1).sum + 1

variable {len sz more : Nat} {value : Nat → UInt8} {argv segs : List (List UInt8)}
  {a front tail rest data : List UInt8}

theorem argSize_of_le (short : a.length ≤ 255) : argSize a = a.length := by
  rw [argSize, nsctlMaxArgSz]
  omega

/-- The arguments are packed when there is room for them, and what is written has their sizes. -/
theorem packArgs_room (value : Nat → UInt8) :
    (∀ args, packArgs len value sz argv = some args →
      args.length = (argv.map fun a => argSize a + 1).sum) ∧
    (sz + (argv.map fun a => argSize a + 1).sum ≤ len → (packArgs len value sz argv).isSome) := by
  induction argv generalizing value sz with
  | nil => simp [packArgs]
  | cons a argv ih =>
      simp only [packArgs, List.map_cons, List.sum_cons]
      generalize (fun i => if i < (UInt8.ofNat (argSize a)).toNat then a.getD i 0 else value i) =
        value
      obtain ⟨length, room⟩ := @ih (sz + (argSize a + 1)) value
      by_cases full : len < sz + (argSize a + 1)
      · rw [if_pos full]
        exact ⟨nofun, fun fits => by omega⟩
      · rw [if_neg full]
        refine ⟨fun args packs => ?_, fun fits => ?_⟩
        · obtain ⟨rest, packed, rfl⟩ := Option.map_eq_some_iff.mp packs
          simp [length rest packed]
          omega
        · rw [Option.isSome_map]
          exact room (by omega)

theorem map_value (a : List UInt8) (value : Nat → UInt8) :
    (List.range a.length).map (fun i => if i < a.length then a.getD i 0 else value i) = a := by
  refine List.ext_getElem (by simp) fun i before within => ?_
  simp at before
  simp [before]

theorem packArgs_short (short : ∀ a ∈ argv, a.length ≤ 255) (value : Nat → UInt8)
    (room : sz + (Counted.encode argv).length ≤ len) :
    packArgs len value sz argv = some (Counted.encode argv) := by
  induction argv generalizing value sz with
  | nil => rfl
  | cons a argv ih =>
      obtain ⟨here, behind⟩ := List.forall_mem_cons.mp short
      rw [Counted.encode_cons, List.length_cons, List.length_append] at room
      simp only [packArgs]
      rw [argSize_of_le here, Counted.length_byte here, if_neg (by omega), map_value,
        ih behind _ (by omega), Counted.encode_cons]
      rfl

/-- Where the arguments are that begin at an address. -/
def addresses : Nat → List (List UInt8) → List Nat
  | _, [] => []
  | p, seg :: segs => (p + 1) :: addresses (p + 1 + seg.length) segs

/-- The arguments with a zero in the place of each length. -/
def terminated (segs : List (List UInt8)) : List UInt8 := segs.flatMap (0 :: ·)

theorem unpackArgs_encode (short : ∀ seg ∈ segs, seg.length ≤ 255) (found : List Nat)
    (long : front.length + (Counted.encode segs).length < len) :
    unpackArgs len segs.length (front ++ (Counted.encode segs ++ 0xff :: tail)) front.length found =
      some (.ok (found ++ addresses front.length segs, front ++ (terminated segs ++ 0 :: tail),
        front.length + (Counted.encode segs).length + 1)) := by
  induction segs generalizing front found with
  | nil =>
      have room : ¬ len < front.length + 1 := by
        rw [Counted.encode_nil] at long
        exact not_lt.mpr long
      rw [List.length_nil, unpackArgs, if_neg room]
      simp [addresses, terminated]
  | cons seg segs ih =>
      obtain ⟨here, behind⟩ := List.forall_mem_cons.mp short
      rw [Counted.encode_cons, List.length_cons, List.length_append] at long
      have next : (front ++ 0 :: seg).length = front.length + 1 + seg.length := by
        rw [List.length_append, List.length_cons]
        omega
      have goes := @ih (front ++ 0 :: seg) behind (found ++ [front.length + 1]) (by omega)
      rw [List.length_cons, unpackArgs, if_neg (by omega)]
      have byte : (front ++ (Counted.encode (seg :: segs) ++ 0xff :: tail))[front.length]? =
          some (UInt8.ofNat seg.length) := by simp
      rw [byte]
      dsimp only
      rw [Counted.length_byte here, if_neg (by omega)]
      have writes : (front ++ (Counted.encode (seg :: segs) ++ 0xff :: tail)).set front.length 0 =
          front ++ 0 :: seg ++ (Counted.encode segs ++ 0xff :: tail) := by
        simp
      rw [writes, ← next, goes]
      simp [addresses, terminated, Nat.add_assoc, Nat.add_comm, Nat.add_left_comm]

/-- A packet whose arguments are found has them, with their lengths and a terminator. -/
theorem unpackArgs_ok {found : List Nat} {result : List Nat × List UInt8 × Nat}
    (all : len = (front ++ rest).length)
    (accepts : unpackArgs len more (front ++ rest) front.length found = some (.ok result)) :
    ∃ segs tail, segs.length = more ∧ (∀ seg ∈ segs, seg.length ≤ 255) ∧
      rest = Counted.encode segs ++ 0xff :: tail := by
  induction more generalizing front rest found with
  | zero =>
      rw [unpackArgs] at accepts
      have room : ¬ len < front.length + 1 := fun full => by simp [full] at accepts
      rw [if_neg room] at accepts
      cases rest with
      | nil => simp [all] at room
      | cons s rest =>
          rw [List.getElem?_append_right le_rfl, Nat.sub_self] at accepts
          dsimp only [List.getElem?_cons_zero] at accepts
          have mark : s = 0xff := by
            by_contra other
            simp [other] at accepts
          exact ⟨[], rest, rfl, nofun, by rw [mark]; rfl⟩
  | succ more ih =>
      rw [unpackArgs] at accepts
      have room : ¬ len < front.length + 1 := fun full => by simp [full] at accepts
      rw [if_neg room] at accepts
      cases rest with
      | nil => simp [all] at room
      | cons s rest =>
          rw [List.getElem?_append_right le_rfl, Nat.sub_self] at accepts
          dsimp only [List.getElem?_cons_zero] at accepts
          rw [List.length_append, List.length_cons] at all
          have cut : ¬ len < front.length + 1 + s.toNat := fun cut => by simp [cut] at accepts
          have fits : s.toNat ≤ rest.length := by omega
          rw [if_neg cut] at accepts
          have writes : (front ++ s :: rest).set front.length 0 =
              (front ++ 0 :: rest.take s.toNat) ++ rest.drop s.toNat := by
            simp
          have next : front.length + 1 + s.toNat = (front ++ 0 :: rest.take s.toNat).length := by
            simp [fits]
            omega
          rw [writes, next] at accepts
          obtain ⟨segs, tail, count, short, eq⟩ := ih (by simp [all]) accepts
          have length : (rest.take s.toNat).length = s.toNat := List.length_take_of_le fits
          refine ⟨rest.take s.toNat :: segs, tail, by simp [count], ?_, ?_⟩
          · refine List.forall_mem_cons.mpr ⟨?_, short⟩
            rw [length]
            exact Nat.le_of_lt_succ s.toNat_lt
          · rw [Counted.encode_cons, length, UInt8.ofNat_toNat, List.cons_append,
              List.append_assoc, ← eq, List.take_append_drop]

/-- **Unpacking stays inside the packet.** -/
theorem unpackArgs_defined (pkt : List UInt8) (found : List Nat) :
    (unpackArgs pkt.length more pkt sz found).isSome := by
  generalize all : pkt.length = len
  induction more generalizing pkt sz found with
  | zero =>
      rw [unpackArgs]
      split_ifs with full
      · rfl
      · rw [List.getElem?_eq_getElem (by omega)]
        dsimp only
        split <;> rfl
  | succ more ih =>
      rw [unpackArgs]
      split_ifs with full
      · rfl
      · rw [List.getElem?_eq_getElem (by omega)]
        dsimp only
        split
        · rfl
        · exact ih _ _ (by simpa using all)

/-- The strings at the addresses are the arguments, up to their first zero. -/
theorem strings_addresses (front tail : List UInt8) (segs : List (List UInt8)) :
    (addresses front.length segs).map
        (fun p => cString ((front ++ (terminated segs ++ 0 :: tail)).drop p)) =
      segs.map cString := by
  induction segs generalizing front with
  | nil => rfl
  | cons seg segs ih =>
      have goes := ih (front ++ 0 :: seg)
      have next : (front ++ 0 :: seg).length = front.length + 1 + seg.length := by simp; omega
      have whole : front ++ (terminated (seg :: segs) ++ 0 :: tail) =
          front ++ 0 :: seg ++ (terminated segs ++ 0 :: tail) := by
        simp [terminated]
      rw [next] at goes
      rw [addresses, List.map_cons, List.map_cons, whole, goes]
      congr 1
      have zero : ∃ behind, terminated segs ++ 0 :: tail = 0 :: behind := by
        cases segs with
        | nil => exact ⟨tail, rfl⟩
        | cons next segs => exact ⟨next ++ (terminated segs ++ 0 :: tail), by simp [terminated]⟩
      obtain ⟨behind, eq⟩ := zero
      have behindFront :
          (front ++ 0 :: seg ++ (terminated segs ++ 0 :: tail)).drop (front.length + 1) =
            seg ++ 0 :: behind := by
        rw [eq, List.append_assoc, List.cons_append, List.append_cons front]
        exact List.drop_left' (by simp)
      rw [behindFront, cString, cString, List.takeWhile_append]
      split_ifs with all
      · have same : seg.takeWhile (· ≠ 0) = seg :=
          (List.takeWhile_sublist _).eq_of_length all
        rw [same]
        simp
      · rfl

/-- The packet with these arguments. -/
def packet (type : UInt8) (args : List (List UInt8)) : List UInt8 :=
  [0x90, 0x13, type, UInt8.ofNat args.length] ++ Counted.encode args ++ [0xff]

variable {type : UInt8} {args : List (List UInt8)} {control : Nsctl}

theorem packet_length (type : UInt8) (args : List (List UInt8)) :
    (packet type args).length = 4 + (Counted.encode args).length + 1 := by
  simp [packet]
  omega

theorem bufferSize_le (len : Int) : bufferSize len ≤ 4096 := by
  rw [bufferSize]
  split_ifs with cut
  · exact le_rfl
  · rw [nsctlMaxPktSz] at cut
    omega

theorem packControl_room (count : argv.length ≤ 255) (value : Nat → UInt8) (len : Int) :
    (∀ data, packControl value len type argv = some data → packetSize argv ≤ bufferSize len) ∧
      (packetSize argv ≤ bufferSize len → (packControl value len type argv).isSome) := by
  obtain ⟨length, room⟩ := @packArgs_room (bufferSize len) 4 argv value
  rw [packControl, List.take_of_length_le count, packetSize]
  refine ⟨fun data packs => ?_, fun fits => ?_⟩
  · obtain ⟨args, packed, packs⟩ := Option.bind_eq_some_iff.mp packs
    split_ifs at packs with full
    rw [length args packed] at full
    omega
  · obtain ⟨args, packed⟩ := Option.isSome_iff_exists.mp (room (by omega))
    rw [packed, Option.bind_some, if_neg]
    · rfl
    · rw [length args packed]
      omega

theorem packControl_packet (count : argv.length ≤ 255) (short : ∀ a ∈ argv, a.length ≤ 255)
    (value : Nat → UInt8) (len : Int) (room : (packet type argv).length ≤ bufferSize len) :
    packControl value len type argv = some (packet type argv) := by
  rw [packet_length] at room
  rw [packControl, List.take_of_length_le count, packArgs_short short value (by omega),
    Option.bind_some, if_neg (by omega), packet]

theorem unpackControl_packet (known : type ∈ types) (count : args.length ≤ 255)
    (short : ∀ arg ∈ args, arg.length ≤ 255) (long : (packet type args).length ≤ 4096) :
    ∃ control, unpackControl (packet type args) = some (.ok control) ∧ control.type = type ∧
      control.args = args.map cString := by
  have length := packet_length type args
  have argc : (UInt8.ofNat args.length).toNat = args.length := by
    rw [UInt8.toNat_ofNat']
    omega
  have finds := @unpackArgs_encode (packet type args).length args
    [0x90, 0x13, type, UInt8.ofNat args.length] [] short [] (by rw [length]; simp)
  have strings := strings_addresses [0x90, 0x13, type, UInt8.ofNat args.length] [] args
  rw [unpackControl.eq_def, if_neg (by omega), if_neg (by rw [nsctlMaxPktSz]; omega)]
  refine ⟨⟨type, UInt8.ofNat args.length, addresses 4 args,
    [0x90, 0x13, type, UInt8.ofNat args.length] ++ (terminated args ++ [0])⟩, ?_, rfl, strings⟩
  unfold packet at finds length ⊢
  dsimp only [List.cons_append, List.nil_append]
  rw [if_neg (by decide), if_neg (not_not.mpr known), argc]
  simp only [List.cons_append, List.nil_append, List.length_cons, List.length_nil] at finds length ⊢
  rw [finds]
  simp [Except.bind]
  omega

theorem exists_header (enough : ¬ data.length < 4) :
    ∃ high low type argc rest, data = high :: low :: type :: argc :: rest := by
  rcases data with _ | ⟨high, _ | ⟨low, _ | ⟨type, _ | ⟨argc, rest⟩⟩⟩⟩
  case cons.cons.cons.cons => exact ⟨high, low, type, argc, rest, rfl⟩
  all_goals simp at enough

/-- The header that is accepted, and what the loop makes of the rest. -/
theorem unpackControl_header (accepts : unpackControl data = some (.ok control)) :
    data.length ≤ 4096 ∧ ∃ argc rest, data = [0x90, 0x13, control.type, argc] ++ rest ∧
      control.type ∈ types ∧ ∃ argv pkt,
        unpackArgs data.length argc.toNat data 4 [] = some (.ok (argv, pkt, data.length)) := by
  rw [unpackControl.eq_def] at accepts
  have enough : ¬ data.length < 4 := fun cut => by simp [cut] at accepts
  have fits : ¬ nsctlMaxPktSz < data.length := fun long => by simp [enough, long] at accepts
  rw [if_neg enough, if_neg fits] at accepts
  refine ⟨not_lt.mp fits, ?_⟩
  obtain ⟨high, low, type, argc, rest, rfl⟩ := exists_header enough
  dsimp only at accepts
  have magic : high.toNat * 256 + low.toNat = nsctlMagic := by
    by_contra other
    simp [other] at accepts
  have known : type ∈ types := by
    by_contra other
    simp [magic, other] at accepts
  rw [if_neg (not_not.mpr magic), if_neg (not_not.mpr known)] at accepts
  obtain ⟨result, finds, accepts⟩ := Option.map_eq_some_iff.mp accepts
  cases result with
  | error e => cases accepts
  | ok found =>
      obtain ⟨argv, pkt, sz⟩ := found
      have ends : sz = (high :: low :: type :: argc :: rest).length := by
        by_contra other
        simp only [Except.bind, if_pos other] at accepts
        cases accepts
      simp only [Except.bind, if_neg (not_not.mpr ends), Except.ok.injEq] at accepts
      have first : high = 0x90 := UInt8.toNat.inj (by
        have within := low.toNat_lt
        rw [nsctlMagic] at magic
        simp
        omega)
      have second : low = 0x13 := UInt8.toNat.inj (by
        rw [nsctlMagic, first] at magic
        simp at magic ⊢
        omega)
      rw [ends] at finds
      rw [first, second] at finds ⊢
      rw [← accepts]
      exact ⟨argc, rest, rfl, known, argv, pkt, finds⟩

/-- **What is accepted is a packet.** -/
theorem unpackControl_ok (accepts : unpackControl data = some (.ok control)) :
    ∃ args, data = packet control.type args ∧ args.length ≤ 255 ∧
      (∀ arg ∈ args, arg.length ≤ 255) ∧ data.length ≤ 4096 ∧
      control.args = args.map cString := by
  obtain ⟨long, argc, rest, split, known, argv, pkt, finds⟩ := unpackControl_header accepts
  have place : 4 = [0x90, 0x13, control.type, argc].length := rfl
  rw [split, place] at finds
  obtain ⟨args, tail, count, short, rfl⟩ := unpackArgs_ok rfl finds
  have same := @unpackArgs_encode _ args _ tail short []
    (show [0x90, 0x13, control.type, argc].length + (Counted.encode args).length <
      ([0x90, 0x13, control.type, argc] ++ (Counted.encode args ++ 0xff :: tail)).length by
        simp; omega)
  rw [count, finds] at same
  have ends := congrArg (·.2.2) (Except.ok.inj (Option.some.inj same))
  have nothing : tail = [] := by
    rw [← List.length_eq_zero_iff]
    simp at ends
    omega
  have whole : data = packet control.type args := by
    rw [split, nothing, packet, count, UInt8.ofNat_toNat, List.append_assoc]
  have few : args.length ≤ 255 := count ▸ Nat.le_of_lt_succ argc.toNat_lt
  obtain ⟨other, unpacks, -, strings⟩ := unpackControl_packet known few short (whole ▸ long)
  rw [← whole, accepts] at unpacks
  cases unpacks
  exact ⟨args, whole, few, short, long, strings⟩

/-- **Unpacking is defined for every packet.** -/
theorem unpackControl_defined (data : List UInt8) : (unpackControl data).isSome := by
  rw [unpackControl.eq_def]
  split_ifs with cut long
  · rfl
  · rfl
  obtain ⟨high, low, type, argc, rest, rfl⟩ := exists_header cut
  dsimp only
  split_ifs
  · rfl
  · rw [Option.isSome_map]
    exact unpackArgs_defined _ []
  · rfl

/-- What is packed is unpacked as it was, with every argument cut to the room for it. -/
def RoundTrips (value : Nat → UInt8) (len : Int) (type : UInt8) (argv : List (List UInt8)) :
    Prop :=
  ∀ data, packControl value len type argv = some data →
    ∃ control, unpackControl data = some (.ok control) ∧ control.type = type ∧
      control.args = argv.map (·.take (nsctlMaxArgSz - 1))

/-- What is unpacked from these bytes, if no argument has a zero in it, is packed to them. -/
def Repacks (data : List UInt8) : Prop :=
  ∀ control, unpackControl data = some (.ok control) →
    ∃ args, data = packet control.type args ∧
      ((∀ arg ∈ args, 0 ∉ arg) → control.args = args ∧ ∀ (value : Nat → UInt8) (len : Int),
        data.length ≤ len → packControl value len control.type control.args = some data)

theorem cString_eq_self (string : 0 ∉ a) : cString a = a := by
  rw [cString, List.takeWhile_eq_self_iff]
  intro byte mem
  simpa using fun zero : byte = 0 => string (zero ▸ mem)

theorem repacks (data : List UInt8) : Repacks data := by
  intro control accepts
  obtain ⟨args, whole, count, short, long, strings⟩ := unpackControl_ok accepts
  refine ⟨args, whole, fun plain => ?_⟩
  have same : control.args = args :=
    strings.trans ((List.map_congr_left fun arg mem => cString_eq_self (plain arg mem)).trans
      (List.map_id' args))
  refine ⟨same, fun value len room => ?_⟩
  have fits : (packet control.type args).length ≤ bufferSize len := by
    rw [← whole, bufferSize, nsctlMaxPktSz]
    split_ifs <;> omega
  rw [same, packControl_packet count short value len fits, whole]

/-- No string that is unpacked has more than 255 bytes. -/
theorem RoundTrips.short {len : Int} (trips : RoundTrips value len type argv)
    (count : argv.length ≤ 255) (fits : packetSize argv ≤ bufferSize len) :
    ∀ a ∈ argv, a.length ≤ 255 := by
  intro a mem
  obtain ⟨data, packs⟩ := Option.isSome_iff_exists.mp ((packControl_room count value len).2 fits)
  obtain ⟨control, unpacks, -, strings⟩ := trips data packs
  obtain ⟨args, -, -, short, -, cut⟩ := unpackControl_ok unpacks
  have there : a.take (nsctlMaxArgSz - 1) ∈ args.map cString := by
    rw [← cut, strings]
    exact List.mem_map_of_mem mem
  obtain ⟨arg, sent, same⟩ := List.mem_map.mp there
  have bound : (a.take (nsctlMaxArgSz - 1)).length ≤ 255 := by
    rw [← same]
    exact (List.takeWhile_sublist _).length_le.trans (short arg sent)
  rw [List.length_take, nsctlMaxArgSz] at bound
  omega

theorem roundTrips_of_short {len : Int} (known : type ∈ types) (count : argv.length ≤ 255)
    (plain : ∀ a ∈ argv, 0 ∉ a) (short : ∀ a ∈ argv, a.length ≤ 255) :
    RoundTrips value len type argv := by
  intro data packs
  have fits := (packControl_room count value len).1 data packs
  have sizes : packetSize argv = (packet type argv).length := by
    rw [packet_length, Counted.encode_length, packetSize]
    congr 3
    exact List.map_congr_left fun a mem => by rw [argSize_of_le (short a mem)]
  rw [sizes] at fits
  obtain ⟨control, unpacks, same, strings⟩ :=
    unpackControl_packet known count short (fits.trans (bufferSize_le len))
  rw [packControl_packet count short value len fits] at packs
  refine ⟨control, Option.some.inj packs ▸ unpacks, same, ?_⟩
  rw [strings]
  refine List.map_congr_left fun a mem => ?_
  rw [cString_eq_self (plain a mem), List.take_of_length_le]
  exact (short a mem).trans (by decide)

/-- **Control packets round trip** exactly when no argument is longer than its length byte can
tell, or the packet does not fit; unpacking is defined for all bytes, and what it accepts is
packed as it came. -/
theorem roundTrips_iff (value : Nat → UInt8) (len : Int) (type : UInt8)
    (argv : List (List UInt8)) (data : List UInt8) :
    (type ∈ types → argv.length ≤ 255 → (∀ a ∈ argv, 0 ∉ a) →
      (RoundTrips value len type argv ↔
        bufferSize len < packetSize argv ∨ ∀ a ∈ argv, a.length ≤ 255)) ∧
      (unpackControl data).isSome ∧ Repacks data := by
  refine ⟨fun known count plain => ?_, unpackControl_defined data, repacks data⟩
  constructor
  · intro trips
    rw [or_iff_not_imp_left, not_lt]
    exact trips.short count
  · rintro (full | short)
    · intro data packs
      exact absurd ((packControl_room count value len).1 data packs) (not_le.mpr full)
    · exact roundTrips_of_short known count plain short

/-- A request to load a plugin. -/
theorem load_roundTrips : RoundTrips (fun _ => 0) 4096 nsctlReqLoad [[0x67, 0x61], []] :=
  ((roundTrips_iff (fun _ => 0) 4096 nsctlReqLoad [[0x67, 0x61], []] []).1 (by decide) (by decide)
    (by decide)).mpr (.inr (by decide))

def longArgument : List UInt8 := List.replicate 256 0x61

theorem longArgument_length : longArgument.length = 256 := List.length_replicate

/-- An argument of 256 bytes is sent with the length 0. -/
theorem long_argument : ¬ ∀ (value : Nat → UInt8) (len : Int) (type : UInt8)
    (argv : List (List UInt8)), type ∈ types → argv.length ≤ 255 → (∀ a ∈ argv, 0 ∉ a) →
      RoundTrips value len type argv := by
  intro trips
  have plain : ∀ a ∈ [longArgument], 0 ∉ a := by
    intro a mem zero
    rw [List.mem_singleton.mp mem] at zero
    exact absurd (List.eq_of_mem_replicate zero) (by decide)
  have fits : packetSize [longArgument] ≤ bufferSize 4096 := by
    simp [packetSize, argSize, bufferSize, nsctlMaxPktSz, nsctlMaxArgSz, longArgument_length]
  have short := (trips (fun _ => 0) 4096 nsctlReqControl _ (by decide) (by simp) plain).short
    (by simp) fits
  exact absurd (short _ (List.mem_singleton_self _)) (by rw [longArgument_length]; decide)

end L2tpns.Management
