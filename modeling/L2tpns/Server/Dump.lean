import L2tpns.Foundation.TransitionSystem
import L2tpns.Constants
import Mathlib.Algebra.GroupWithZero.Nat
import Mathlib.Data.List.Nodup
import Mathlib.Logic.Function.Basic

/-! # Accounting files

A pass over the sessions writes a line for each that has used something, and takes what it
used from the session. All lines of a pass go to one file, whose directory is chosen by the
session for which it is opened. A second file is opened for each session; if that fails, the
line is written and nothing is taken. Where sessions in the garden and others are not mixed in
a file, and the second files are opened, everything used is written once and in the right
place (`L2tpns.Server.Dump.dump_accounts`).
-/

namespace L2tpns.Server.Dump

open Function

/-- To the network, or to the user. -/
inductive Direction where
  | inward
  | outward
deriving DecidableEq, Repr

structure Session where
  opened : Nat
  ip : Nat
  forwardtosession : Nat
  user : String
  walledGarden : Bool
  walledGardenName : String
  throttleIn : Nat
  throttleOut : Nat
  tunnel : Nat
  /-- `cin_delta` and `cout_delta` -/
  delta : Direction → UInt32
  /-- `fcin_delta` and `fcout_delta` -/
  freeDelta : Direction → UInt32
  freeTraffic : String
  lastDump : Nat

/-- `TUNNEL_ID_PPPOE` -/
def tunnelIdPppoe : Nat := 1

/-- What of the configuration is read. -/
structure Setup where
  accountAllOrigin : Bool
  isremotelns : Nat → Bool

/-- `accounting_dir` or `garden_accounting_dir`. -/
inductive Directory where
  | accounting
  | garden
deriving DecidableEq, Repr

/-- What stands in a line behind the octets. The time used is not an argument of the last
form. -/
inductive Ending where
  | origin (origin : Char) (timeUsed : Nat)
  | garden (timeUsed : Nat) (name : String)
  | plain
deriving DecidableEq, Repr

structure Line where
  user : String
  ip : Nat
  qos : Nat
  octets : Direction → UInt32
  ending : Ending

/-- A line of a file. The session of the table that it is written for, if it is one of the
table, and whether that is in the garden, are history. -/
structure Entry where
  source : Option Nat
  walledGarden : Bool
  line : Line

/-- The formats that a header names. -/
inductive Header where
  | garden
  | origin
  | plain
deriving DecidableEq, Repr

structure File where
  directory : Directory
  headers : List Header
  entries : List Entry

/-- A line of a file with free traffic. -/
structure FreeLine where
  zone : String
  user : String
  ip : Nat
  qos : Nat
  octets : Direction → UInt32
  timeUsed : Nat

/-- Something is to be dumped. -/
def Session.Due (s : Session) : Prop :=
  ¬ (s.opened = 0 ∨ s.ip = 0 ∧ s.forwardtosession = 0 ∨
    s.delta .inward = 0 ∧ s.delta .outward = 0 ∨ s.user = "")

instance (s : Session) : Decidable s.Due := inferInstanceAs (Decidable (¬ _))

def Session.qos (s : Session) : Nat := if s.throttleIn ≠ 0 ∨ s.throttleOut ≠ 0 then 2 else 1

def Session.Dumped (setup : Setup) (s : Session) : Prop :=
  setup.accountAllOrigin = true ∨ s.walledGarden = true ∨
    setup.isremotelns s.tunnel = false ∧ s.tunnel ≠ tunnelIdPppoe

instance (setup : Setup) (s : Session) : Decidable (s.Dumped setup) :=
  inferInstanceAs (Decidable (_ ∨ _))

/-- The line for a session, if it is of a kind that gets one. -/
def line (setup : Setup) (now : Nat) (s : Session) : Option Line :=
  let timeUsed := now - s.lastDump
  if setup.accountAllOrigin then
    let origin :=
      if s.tunnel = tunnelIdPppoe then 'P' else if setup.isremotelns s.tunnel then 'R' else 'L'
    some ⟨s.user, s.ip, s.qos, s.delta, .origin origin timeUsed⟩
  else if s.walledGarden then
    some ⟨s.user, s.ip, s.qos, s.delta, .garden timeUsed s.walledGardenName⟩
  else if setup.isremotelns s.tunnel = false ∧ s.tunnel ≠ tunnelIdPppoe then
    some ⟨s.user, s.ip, s.qos, s.delta, .plain⟩
  else none

/-- A new file for the lines of a pass, with the directory and the headers that its first
session chooses. -/
def openFile (setup : Setup) (s : Session) : File where
  directory := if s.walledGarden then .garden else .accounting
  headers :=
    (if s.walledGarden then [.garden] else []) ++
      [if setup.accountAllOrigin then .origin else .plain]
  entries := []

/-- What `fopen` returns for the file of the pass and for the one with free traffic. -/
structure Calls where
  opens : Bool
  opensFree : Bool
deriving DecidableEq, Repr

/-- What is left after a session: the file of the pass, the session, and the line with free
traffic. -/
structure Outcome where
  file : Option File
  session : Session
  free : Option FreeLine

/-- Write the line into an open file and take the octets from the session. -/
def writeSession (setup : Setup) (now : Nat) (opensFree : Bool) (source : Option Nat) (file : File)
    (s : Session) : Outcome :=
  let since := { s with lastDump := if s.lastDump = 0 then s.opened else s.lastDump }
  let written :=
    match line setup now since with
    | some line => { file with entries := file.entries ++ [⟨source, s.walledGarden, line⟩] }
    | none => file
  -- the zone is an array, so the test of it always holds
  if opensFree then
    { file := some written
      session := { since with
        delta := fun _ => 0
        freeDelta := fun _ => 0
        lastDump := now }
      free := some ⟨s.freeTraffic, s.user, s.ip, s.qos, s.freeDelta, now - since.lastDump⟩ }
  else ⟨some written, since, none⟩

def dumpSession (setup : Setup) (now : Nat) (calls : Calls) (source : Option Nat)
    (file : Option File) (s : Session) : Outcome :=
  if ¬ s.Due then ⟨file, s, none⟩
  else
    match file with
    | some file => writeSession setup now calls.opensFree source file s
    | none =>
        if calls.opens then writeSession setup now calls.opensFree source (openFile setup s) s
        else ⟨none, s, none⟩

/-- The sessions that were shut down since the last pass. -/
def dumpShut (setup : Setup) (now : Nat) : List (Session × Calls) → Option File → Option File
  | [], file => file
  | (s, calls) :: rest, file =>
      dumpShut setup now rest (dumpSession setup now calls none file s).file

/-- The sessions of the table with the given ids. -/
def dumpTable (setup : Setup) (now : Nat) (calls : Nat → Calls) :
    List Nat → Option File → (Nat → Session) → Option File × (Nat → Session)
  | [], file, session => (file, session)
  | s :: rest, file, session =>
      let outcome := dumpSession setup now (calls s) (some s) file (session s)
      dumpTable setup now calls rest outcome.file (Function.update session s outcome.session)

/-- The sessions, those that were shut down, and all files that were written. What was ever
added to the deltas is history. -/
structure Accounts where
  setup : Setup
  session : Nat → Session
  highestSessionid : Nat
  shutAcct : List Session
  files : List File
  added : Nat → Direction → Nat

/-- The ids that a pass goes over. -/
def Accounts.ids (accounts : Accounts) : List Nat := List.range' 1 accounts.highestSessionid

/-- The sessions that were shut down, with what `fopen` returns for them. -/
def Accounts.shuts (accounts : Accounts) (shutCalls : Nat → Calls) : List (Session × Calls) :=
  accounts.shutAcct.zipIdx.map fun (s, i) => (s, shutCalls i)

/-- `dump_acct_info(1)` -/
def dumpAcctInfo (accounts : Accounts) (now : Nat) (shutCalls : Nat → Calls)
    (calls : Nat → Calls) : Accounts :=
  let shut := dumpShut accounts.setup now (accounts.shuts shutCalls) none
  let dumped := dumpTable accounts.setup now calls accounts.ids shut accounts.session
  { accounts with
    session := dumped.2
    shutAcct := []
    files := accounts.files ++ dumped.1.toList }

/-- Traffic of a session. -/
def addTraffic (accounts : Accounts) (s : Nat) (direction : Direction) (len : UInt32) : Accounts :=
  let session := accounts.session s
  { accounts with
    session := Function.update accounts.session s
      { session with
        delta := Function.update session.delta direction (session.delta direction + len) }
    added := Function.update accounts.added s
      (Function.update (accounts.added s) direction (accounts.added s direction + len.toNat)) }

/-- The counters of a session that is shut down are saved. -/
def saveShut (accounts : Accounts) (session : Session) : Accounts :=
  { accounts with shutAcct := accounts.shutAcct ++ [session] }

inductive Event where
  | traffic (s : Nat) (direction : Direction) (len : UInt32)
  | shut (session : Session)
  | dump (now : Nat) (shutCalls : Nat → Calls) (calls : Nat → Calls)

def Accounts.act (accounts : Accounts) : Event → Accounts
  | .traffic s direction len => addTraffic accounts s direction len
  | .shut session => saveShut accounts session
  | .dump now shutCalls calls => dumpAcctInfo accounts now shutCalls calls

/-- Nothing is written yet. -/
structure Accounts.Starts (accounts : Accounts) : Prop where
  files : accounts.files = []
  added : ∀ s d, accounts.added s d = ((accounts.session s).delta d).toNat

def system : Foundation.TransitionSystem Accounts Event where
  initial := Accounts.Starts
  step accounts event next := next = accounts.act event

/-- The octets in the lines of a file for a session of the table. -/
def File.octets (file : File) (s : Nat) (d : Direction) : Nat :=
  (file.entries.map fun entry =>
    if entry.source = some s then (entry.line.octets d).toNat else 0).sum

def octets (files : List File) (s : Nat) (d : Direction) : Nat :=
  (files.map fun file => file.octets s d).sum

/-- The lines of sessions in the garden, and no others, are in a file of the garden. -/
def File.Placed (file : File) : Prop :=
  ∀ entry ∈ file.entries, (entry.walledGarden = true ↔ file.directory = .garden)

/-- What was added to the deltas was written once or is there still, and the lines are in the
right place. -/
structure Accounts.Right (accounts : Accounts) : Prop where
  accounted : ∀ s, (accounts.session s).Dumped accounts.setup → ∀ d,
    octets accounts.files s d + ((accounts.session s).delta d).toNat = accounts.added s d
  placed : ∀ file ∈ accounts.files, file.Placed

/-- A session that a pass comes to, with what `fopen` returns for it. -/
structure Item where
  table : Bool
  session : Session
  calls : Calls

/-- All sessions of a pass, in its order. -/
def Accounts.items (accounts : Accounts) (shutCalls calls : Nat → Calls) : List Item :=
  (accounts.shuts shutCalls).map (fun (s, calls) => ⟨false, s, calls⟩) ++
    accounts.ids.map fun s => ⟨true, accounts.session s, calls s⟩

/-- The file of the pass can be opened for the session. -/
def Item.Opens (item : Item) : Prop := item.session.Due ∧ item.calls.opens = true

instance (item : Item) : Decidable item.Opens := inferInstanceAs (Decidable (_ ∧ _))

/-- If the session gets a line, it is of the given kind, and the second file for a session of the
table is opened. -/
def Item.Fits (setup : Setup) (walledGarden : Bool) (item : Item) : Prop :=
  item.session.Due → item.session.Dumped setup →
    item.session.walledGarden = walledGarden ∧ (item.table = true → item.calls.opensFree = true)

/-- From the first session on for which the file is opened, all lines are for sessions of its
kind, and the second files are opened. -/
def Uniform (setup : Setup) (items : List Item) : Prop :=
  ∀ first rest, items.dropWhile (fun item => ¬ item.Opens) = first :: rest →
    ∀ item ∈ first :: rest, item.Fits setup first.session.walledGarden

/-- The deltas do not wrap, and no pass mixes sessions in the garden with others or fails to open
a second file. -/
def Event.Keeps (accounts : Accounts) : Event → Prop
  | .traffic s direction len =>
      ((accounts.session s).delta direction).toNat + len.toNat < 2 ^ 32
  | .shut _ => True
  | .dump _ shutCalls calls => Uniform accounts.setup (accounts.items shutCalls calls)

variable {setup : Setup} {now : Nat} {calls : Calls} {source : Option Nat}

theorem line_of_dumped {s : Session} (dumped : s.Dumped setup) :
    ∃ written, line setup now s = some written ∧ written.octets = s.delta := by
  simp only [line]
  by_cases all : setup.accountAllOrigin = true
  · rw [if_pos all]
    exact ⟨_, rfl, rfl⟩
  rw [if_neg all]
  by_cases garden : s.walledGarden = true
  · rw [if_pos garden]
    exact ⟨_, rfl, rfl⟩
  rw [if_neg garden, if_pos ((dumped.resolve_left all).resolve_left garden)]
  exact ⟨_, rfl, rfl⟩

theorem line_of_not_dumped {s : Session} (other : ¬ s.Dumped setup) :
    line setup now s = none := by
  rw [Session.Dumped, not_or, not_or] at other
  simp only [line]
  rw [if_neg other.1, if_neg other.2.1, if_neg other.2.2]

inductive Gained (setup : Setup) (source : Option Nat) (s : Session) (file after : File) : Prop
  where
  | line (written : Line) (dumped : s.Dumped setup) (octets : written.octets = s.delta)
      (entries : after.entries = file.entries ++ [⟨source, s.walledGarden, written⟩])
  | nothing (other : ¬ s.Dumped setup) (entries : after.entries = file.entries)

/-- A session is written into an open file, and what it used is taken if the second file is
opened. -/
theorem writeSession_spec (opensFree : Bool) (file : File) (s : Session) :
    ∃ after, (writeSession setup now opensFree source file s).file = some after ∧
      after.directory = file.directory ∧ Gained setup source s file after ∧
      (writeSession setup now opensFree source file s).session.delta =
        (if opensFree then fun _ => 0 else s.delta) := by
  rw [writeSession]
  dsimp only
  generalize (if s.lastDump = 0 then s.opened else s.lastDump) = since
  by_cases dumped : s.Dumped setup
  · obtain ⟨written, same, octets⟩ := @line_of_dumped setup now { s with lastDump := since } dumped
    rw [same]
    dsimp only
    split
    · exact ⟨_, rfl, rfl, .line written dumped octets rfl, rfl⟩
    · exact ⟨_, rfl, rfl, .line written dumped octets rfl, rfl⟩
  · rw [@line_of_not_dumped setup now { s with lastDump := since } dumped]
    dsimp only
    split
    · exact ⟨_, rfl, rfl, .nothing dumped rfl, rfl⟩
    · exact ⟨_, rfl, rfl, .nothing dumped rfl, rfl⟩

/-- The cases of a session: there is nothing to do or no file to do it in, or it is written into
the file of the pass, which may be new. -/
inductive Cases (setup : Setup) (now : Nat) (calls : Calls) (source : Option Nat)
    (file : Option File) (s : Session) (outcome : Outcome) : Prop where
  | idle (idle : ¬ s.Due) (same : outcome = ⟨file, s, none⟩)
  | closed (closed : file = none) (fails : calls.opens = false) (same : outcome = ⟨none, s, none⟩)
  | opened (closed : file = none) (due : s.Due) (opens : calls.opens = true)
      (same : outcome = writeSession setup now calls.opensFree source (openFile setup s) s)
  | written (open_ : File) (isOpen : file = some open_) (due : s.Due)
      (same : outcome = writeSession setup now calls.opensFree source open_ s)

theorem dumpSession_cases (file : Option File) (s : Session) :
    Cases setup now calls source file s (dumpSession setup now calls source file s) := by
  unfold dumpSession
  by_cases due : s.Due
  · rw [if_neg (not_not.mpr due)]
    cases file with
    | some open_ => exact .written open_ rfl due rfl
    | none =>
        by_cases opens : calls.opens = true
        · exact .opened rfl due opens (if_pos opens)
        · exact .closed rfl (eq_false_of_ne_true opens) (if_neg opens)
  · rw [if_pos due]
    exact .idle due rfl

/-- A file that is open for a pass. -/
abbrev octetsIn (file : Option File) (s : Nat) (d : Direction) : Nat := octets file.toList s d

theorem octetsIn_some (file : File) (s : Nat) (d : Direction) :
    octetsIn (some file) s d = file.octets s d := Nat.add_zero _

variable {file after : File} {accounts : Accounts}

theorem File.octets_append {entry : Entry}
    (entries : after.entries = file.entries ++ [entry]) (s : Nat) (d : Direction) :
    after.octets s d = file.octets s d +
      if entry.source = some s then (entry.line.octets d).toNat else 0 := by
  rw [File.octets, entries, List.map_append, List.sum_append, List.map_singleton,
    List.sum_singleton]
  rfl

theorem Gained.octets_of_ne {s : Session}
    (gained : Gained setup source s file after) {t : Nat} (other : source ≠ some t)
    (d : Direction) : after.octets t d = file.octets t d := by
  cases gained with
  | line written dumped octets entries =>
      rw [File.octets_append entries, if_neg other, Nat.add_zero]
  | nothing other entries => rw [File.octets, entries, File.octets]

theorem Gained.octets_self {s : Session} {t : Nat}
    (gained : Gained setup (some t) s file after) (dumped : s.Dumped setup) (d : Direction) :
    after.octets t d = file.octets t d + (s.delta d).toNat := by
  cases gained with
  | line written dumped octets entries =>
      rw [File.octets_append entries, if_pos rfl, octets]
  | nothing other entries => exact absurd dumped other

theorem Gained.placed {s : Session} {file after : File} (gained : Gained setup source s file after)
    (directory : after.directory = file.directory) (placed : file.Placed)
    (kind : s.Dumped setup → (s.walledGarden = true ↔ file.directory = .garden)) :
    after.Placed := by
  intro entry member
  rw [directory]
  cases gained with
  | line written dumped octets entries =>
      rw [entries, List.mem_append, List.mem_singleton] at member
      rcases member with old | new
      · exact placed entry old
      · rw [new]
        exact kind dumped
  | nothing other entries =>
      rw [entries] at member
      exact placed entry member

theorem openFile_octets (s : Session) (t : Nat) (d : Direction) :
    (openFile setup s).octets t d = 0 := rfl

theorem openFile_directory (s : Session) :
    s.walledGarden = true ↔ (openFile setup s).directory = .garden := by
  rw [openFile]
  dsimp only
  split
  · rename_i garden
    exact iff_of_true garden rfl
  · rename_i outside
    exact iff_of_false outside nofun

theorem dumpSession_octets_of_ne (file : Option File) (s : Session) {t : Nat}
    (other : source ≠ some t) (d : Direction) :
    octetsIn (dumpSession setup now calls source file s).file t d = octetsIn file t d := by
  cases @dumpSession_cases setup now calls source file s with
  | idle _ same => rw [same]
  | closed closed _ same => rw [same, closed]
  | opened closed _ _ same =>
      obtain ⟨after, result, _, gained, _⟩ :=
        @writeSession_spec setup now source calls.opensFree (openFile setup s) s
      rw [same, result, closed, octetsIn_some, gained.octets_of_ne other]
      rfl
  | written open_ isOpen _ same =>
      obtain ⟨after, result, _, gained, _⟩ :=
        @writeSession_spec setup now source calls.opensFree open_ s
      rw [same, result, isOpen, octetsIn_some, octetsIn_some, gained.octets_of_ne other]

/-- What is in the lines for a session and what it has left stay as much together, if the second
file can be opened when the line is written. -/
theorem dumpSession_octets_self (file : Option File) (s : Session) (t : Nat)
    (dumped : s.Dumped setup)
    (free : s.Due → (file = none → calls.opens = true) → calls.opensFree = true) (d : Direction) :
    octetsIn (dumpSession setup now calls (some t) file s).file t d +
        ((dumpSession setup now calls (some t) file s).session.delta d).toNat =
      octetsIn file t d + (s.delta d).toNat := by
  cases @dumpSession_cases setup now calls (some t) file s with
  | idle _ same => rw [same]
  | closed closed _ same => rw [same, closed]
  | opened closed due opens same =>
      obtain ⟨after, result, _, gained, left⟩ :=
        @writeSession_spec setup now (some t) calls.opensFree (openFile setup s) s
      rw [same, result, left, if_pos (free due fun _ => opens), octetsIn_some,
        gained.octets_self dumped, openFile_octets, closed]
      rfl
  | written open_ isOpen due same =>
      obtain ⟨after, result, _, gained, left⟩ :=
        @writeSession_spec setup now (some t) calls.opensFree open_ s
      rw [same, result, left, if_pos (free due (isOpen ▸ nofun)), octetsIn_some,
        gained.octets_self dumped, isOpen, octetsIn_some]
      rfl

/-- What is left of a pass, for the file that is open. -/
def Ready (setup : Setup) : Option File → List Item → Prop
  | none, items => Uniform setup items
  | some file, items => ∀ item ∈ items, item.Fits setup (file.directory = .garden)

theorem Uniform.next {item : Item} {rest : List Item} (uniform : Uniform setup (item :: rest))
    (stays : ¬ item.Opens) : Uniform setup rest := by
  intro first more found
  refine uniform first more ((List.dropWhile_cons_of_pos ?_).trans found)
  exact decide_eq_true stays

theorem Uniform.here {item : Item} {rest : List Item} (uniform : Uniform setup (item :: rest))
    (opens : item.Opens) : ∀ other ∈ item :: rest, other.Fits setup item.session.walledGarden :=
  uniform item rest (List.dropWhile_cons_of_neg (by simpa using opens))

theorem openFile_kind (s : Session) :
    decide ((openFile setup s).directory = .garden) = s.walledGarden := by
  have kind := @openFile_directory setup s
  cases garden : s.walledGarden with
  | true => exact decide_eq_true (kind.mp garden)
  | false =>
      refine decide_eq_false fun directory => ?_
      exact nomatch garden.symm.trans (kind.mpr directory)

theorem Ready.next {file : Option File} {item : Item} {rest : List Item}
    (ready : Ready setup file (item :: rest)) :
    Ready setup (dumpSession setup now item.calls source file item.session).file rest := by
  cases @dumpSession_cases setup now item.calls source file item.session with
  | idle idle same =>
      rw [same]
      cases file with
      | none => exact Uniform.next ready fun opens => idle opens.1
      | some open_ => exact fun other member => ready other (List.mem_cons_of_mem _ member)
  | closed closed fails same =>
      rw [same]
      rw [closed] at ready
      exact Uniform.next ready fun opens => nomatch fails.symm.trans opens.2
  | opened closed due opens same =>
      obtain ⟨after, result, directory, _, _⟩ := @writeSession_spec setup now source
        item.calls.opensFree (openFile setup item.session) item.session
      rw [same, result]
      rw [closed] at ready
      intro other member
      rw [directory, openFile_kind]
      exact Uniform.here ready ⟨due, opens⟩ other (List.mem_cons_of_mem _ member)
  | written open_ isOpen due same =>
      obtain ⟨after, result, directory, _, _⟩ := @writeSession_spec setup now source
        item.calls.opensFree open_ item.session
      rw [same, result]
      rw [isOpen] at ready
      intro other member
      rw [directory]
      exact ready other (List.mem_cons_of_mem _ member)

/-- The line of a session that fits is in the right place. -/
theorem Ready.placed {file : Option File} {item : Item} {rest : List Item}
    (ready : Ready setup file (item :: rest)) (placed : ∀ open_ ∈ file, open_.Placed) :
    ∀ after ∈ (dumpSession setup now item.calls source file item.session).file,
      after.Placed := by
  intro after member
  cases @dumpSession_cases setup now item.calls source file item.session with
  | idle _ same =>
      rw [same] at member
      exact placed after member
  | closed closed _ same =>
      rw [same] at member
      exact nomatch member
  | opened closed due opens same =>
      obtain ⟨written, result, directory, gained, _⟩ := @writeSession_spec setup now source
        item.calls.opensFree (openFile setup item.session) item.session
      rw [same, result] at member
      rw [← Option.some.inj member]
      exact gained.placed directory (fun _ none => nomatch none) fun _ =>
        openFile_directory item.session
  | written open_ isOpen due same =>
      obtain ⟨written, result, directory, gained, _⟩ := @writeSession_spec setup now source
        item.calls.opensFree open_ item.session
      rw [same, result] at member
      rw [← Option.some.inj member]
      rw [isOpen] at ready
      refine gained.placed directory (placed open_ isOpen) fun dumped => ?_
      rw [(ready item (List.mem_cons_self ..) due dumped).1]
      exact decide_eq_true_iff

theorem Ready.free {file : Option File} {item : Item} {rest : List Item}
    (ready : Ready setup file (item :: rest)) (table : item.table = true)
    (dumped : item.session.Dumped setup) (due : item.session.Due)
    (opens : file = none → item.calls.opens = true) : item.calls.opensFree = true := by
  cases file with
  | none =>
      have fits := Uniform.here ready ⟨due, opens rfl⟩ item (List.mem_cons_self ..)
      exact (fits due dumped).2 table
  | some open_ => exact (ready item (List.mem_cons_self ..) due dumped).2 table

/-- A session is of the same kind afterwards. -/
theorem dumpSession_dumped (file : Option File) (s : Session) :
    (dumpSession setup now calls source file s).session.Dumped setup ↔ s.Dumped setup := by
  have written : ∀ open_,
      (writeSession setup now calls.opensFree source open_ s).session.Dumped setup ↔
        s.Dumped setup := by
    intro open_
    rw [writeSession]
    dsimp only
    split
    · exact Iff.rfl
    · exact Iff.rfl
  cases @dumpSession_cases setup now calls source file s with
  | idle _ same | closed _ _ same => rw [same]
  | opened _ _ _ same | written _ _ _ same =>
      rw [same]
      exact written _

theorem dumpShut_spec {rest : List Item} (shut : List (Session × Calls)) (file : Option File)
    (ready : Ready setup file (shut.map (fun (s, calls) => ⟨false, s, calls⟩) ++ rest))
    (placed : ∀ open_ ∈ file, open_.Placed) :
    Ready setup (dumpShut setup now shut file) rest ∧
      (∀ open_ ∈ dumpShut setup now shut file, open_.Placed) ∧
      ∀ t d, octetsIn (dumpShut setup now shut file) t d = octetsIn file t d := by
  induction shut generalizing file with
  | nil => exact ⟨ready, placed, fun _ _ => rfl⟩
  | cons first shut ih =>
      rw [dumpShut]
      obtain ⟨after, right, same⟩ := ih _ (Ready.next ready) (Ready.placed ready placed)
      refine ⟨after, right, fun t d => (same t d).trans ?_⟩
      exact @dumpSession_octets_of_ne setup now first.2 none file first.1 t nofun d

/-- What holds of the sessions of the table after a pass over some of them. -/
structure Passed (setup : Setup) (file : Option File) (session : Nat → Session)
    (result : Option File × (Nat → Session)) : Prop where
  placed : ∀ open_ ∈ result.1, open_.Placed
  kinds : ∀ t, (result.2 t).Dumped setup ↔ (session t).Dumped setup
  accounted : ∀ t, (session t).Dumped setup → ∀ d,
    octetsIn result.1 t d + ((result.2 t).delta d).toNat =
      octetsIn file t d + ((session t).delta d).toNat

theorem dumpTable_passed (calls : Nat → Calls) (ids : List Nat) (once : ids.Nodup)
    (file : Option File) (session : Nat → Session)
    (ready : Ready setup file (ids.map fun s => ⟨true, session s, calls s⟩))
    (placed : ∀ open_ ∈ file, open_.Placed) :
    Passed setup file session (dumpTable setup now calls ids file session) := by
  induction ids generalizing file session with
  | nil => exact ⟨placed, fun _ => Iff.rfl, fun _ _ _ => rfl⟩
  | cons s rest ih =>
      obtain ⟨fresh, once⟩ := List.nodup_cons.mp once
      rw [List.map_cons] at ready
      have after := @Ready.next setup now (some s) _ _ _ ready
      have right := @Ready.placed setup now (some s) _ _ _ ready placed
      have kind := @dumpSession_dumped setup now (calls s) (some s) file (session s)
      have others := @dumpSession_octets_of_ne setup now (calls s) (some s) file (session s)
      have self := fun dumped => @dumpSession_octets_self setup now (calls s) file (session s) s
        dumped (Ready.free ready rfl dumped)
      rw [dumpTable]
      dsimp only at after right ⊢
      generalize dumpSession setup now (calls s) (some s) file (session s) = outcome
        at after right kind others self ⊢
      have same : rest.map (fun t =>
          (⟨true, update session s outcome.session t, calls t⟩ : Item)) =
          rest.map fun t => ⟨true, session t, calls t⟩ := by
        refine List.map_congr_left fun t member => ?_
        rw [update_of_ne (ne_of_mem_of_not_mem member fresh)]
      have passed := ih once outcome.file (update session s outcome.session)
        (same ▸ after) right
      refine ⟨passed.placed, fun t => (passed.kinds t).trans ?_, fun t dumped d => ?_⟩
      · by_cases here : t = s
        · rw [here, update_self]
          exact kind
        · rw [update_of_ne here]
      · have accounted := passed.accounted t
        by_cases here : t = s
        · rw [here] at accounted dumped ⊢
          rw [update_self] at accounted
          exact (accounted (kind.mpr dumped) d).trans (self dumped d)
        · rw [update_of_ne here] at accounted
          rw [accounted dumped d, others (fun both => here (Option.some.inj both).symm) d]

theorem octets_append (files more : List File) (s : Nat) (d : Direction) :
    octets (files ++ more) s d = octets files s d + octets more s d := by
  rw [octets, List.map_append, List.sum_append]
  rfl

theorem dumpAcctInfo_right (right : accounts.Right) (now : Nat) (shutCalls calls : Nat → Calls)
    (uniform : Uniform accounts.setup (accounts.items shutCalls calls)) :
    (dumpAcctInfo accounts now shutCalls calls).Right := by
  obtain ⟨ready, placed, nothing⟩ := @dumpShut_spec accounts.setup now
    (accounts.ids.map fun s => ⟨true, accounts.session s, calls s⟩) (accounts.shuts shutCalls) none
    uniform nofun
  have passed := @dumpTable_passed accounts.setup now calls accounts.ids List.nodup_range' _
    accounts.session ready placed
  constructor
  · intro s dumped d
    have total := passed.accounted s ((passed.kinds s).mp dumped) d
    have before := right.accounted s ((passed.kinds s).mp dumped) d
    rw [nothing] at total
    rw [dumpAcctInfo]
    dsimp only
    rw [octets_append, Nat.add_assoc, total, ← before]
    exact congrArg (octets accounts.files s d + ·) (Nat.zero_add _)
  · intro file member
    rcases List.mem_append.mp member with old | new
    · exact right.placed file old
    · exact passed.placed file (Option.mem_toList.mp new)

theorem addTraffic_right (right : accounts.Right) (s : Nat) (direction : Direction) (len : UInt32)
    (fits : ((accounts.session s).delta direction).toNat + len.toNat < 2 ^ 32) :
    (addTraffic accounts s direction len).Right := by
  refine ⟨fun t dumped d => ?_, right.placed⟩
  rw [addTraffic] at dumped ⊢
  dsimp only at dumped ⊢
  by_cases here : t = s
  · rw [here] at dumped ⊢
    rw [update_self] at dumped
    have before := right.accounted s dumped d
    rw [update_self, update_self]
    dsimp only
    by_cases along : d = direction
    · rw [along] at before ⊢
      rw [update_self, update_self, UInt32.toNat_add, Nat.mod_eq_of_lt fits]
      omega
    · rw [update_of_ne along, update_of_ne along]
      exact before
  · rw [update_of_ne here] at dumped ⊢
    rw [update_of_ne here]
    exact right.accounted t dumped d

theorem Accounts.Starts.right (starts : accounts.Starts) : accounts.Right := by
  refine ⟨fun s _ d => ?_, fun file member => ?_⟩
  · rw [starts.files, starts.added]
    exact Nat.zero_add _
  · rw [starts.files] at member
    exact nomatch member

/-- A session of user "u" that has used nothing. -/
def userSession (walledGarden : Bool) : Session where
  opened := 1
  ip := 1
  forwardtosession := 0
  user := "u"
  walledGarden := walledGarden
  walledGardenName := ""
  throttleIn := 0
  throttleOut := 0
  tunnel := 2
  delta := fun _ => 0
  freeDelta := fun _ => 0
  freeTraffic := ""
  lastDump := 0

/-- Sessions 1 and 2; the second may be in the garden. -/
def twoAccounts (walledGarden : Bool) : Accounts where
  setup := ⟨false, fun _ => false⟩
  session := fun s => userSession (if s = 2 then walledGarden else false)
  highestSessionid := 2
  shutAcct := []
  files := []
  added := fun _ _ => 0

/-- Both have received 100 bytes. -/
def usedAccounts (walledGarden : Bool) : Accounts :=
  addTraffic (addTraffic (twoAccounts walledGarden) 1 .outward 100) 2 .outward 100

theorem usedAccounts_reachable (walledGarden : Bool) :
    system.ReachableUnder Event.Keeps (usedAccounts walledGarden) := by
  have starts : (twoAccounts walledGarden).Starts := ⟨rfl, fun _ _ => rfl⟩
  have first : system.ReachableUnder Event.Keeps
      (addTraffic (twoAccounts walledGarden) 1 .outward 100) := by
    refine .step (.traffic 1 .outward 100) (.initial starts) ?_ rfl
    exact (by decide : (0 : UInt32).toNat + (100 : UInt32).toNat < 2 ^ 32)
  refine .step (.traffic 2 .outward 100) first ?_ rfl
  exact (by decide : (0 : UInt32).toNat + (100 : UInt32).toNat < 2 ^ 32)

def openPass : Event := .dump 5 (fun _ => ⟨true, true⟩) fun _ => ⟨true, true⟩

end L2tpns.Server.Dump
