import L2tpns.Foundation.TagList
import L2tpns.L2tp.Forward
import L2tpns.Server.FreeList

/-! # Discovery of the PPPoE server

A client asks for a server in a PADI, for a session in a PADR, and ends one with a PADT. Tags in
the requests say what is wanted; some of them are copied into the answers, which are written
into a buffer of the size of a frame. A pointer to a tag is the offset of the tag here. Besides
its result each step keeps whether what was read is inside of the frame that was received.
-/

namespace L2tpns.Pppoe

open Foundation
open Avp (Memory ntohs readBytes writeBytes)
open L2tp (putWord setupHeader)
open Server (State bytes16 maxSession sessionshutdown tunnelIdPppoe)

def codePadi : UInt8 := 0x09

def codePado : UInt8 := 0x07

def codePadr : UInt8 := 0x19

def codePads : UInt8 := 0x65

def codePadt : UInt8 := 0xA7

def tagServiceName : Nat := 0x0101

def tagAcName : Nat := 0x0102

def tagHostUniq : Nat := 0x0103

def tagAcCookie : Nat := 0x0104

def tagRelaySessionId : Nat := 0x0110

def tagServiceNameError : Nat := 0x0201

/-- `ETH_P_PPP_DISC` -/
def ethPPppDisc : Nat := 0x8863

/-- `ETHER_MAX_LEN` -/
def etherMaxLen : Nat := 1518

/-- `bc_addr` -/
def bcAddr : Vector UInt8 6 := Vector.replicate 6 0xFF

/-- The configuration; the names are texts in fields of 64 bytes. -/
structure Config where
  clusterIamMaster : Bool
  pppoeHwaddr : Vector UInt8 6
  pppoeAcName : List UInt8
  pppoeServiceName : List UInt8
  pppoeOnlyEqualSvcName : Bool
  l2tpSecret : List UInt8
  md5 : List UInt8 → Vector UInt8 16
  acName_short : pppoeAcName.length < 64
  serviceName_short : pppoeServiceName.length < 64

/-- The server: its tables, and the addresses of the clients of PPPoE sessions. -/
structure Concentrator where
  config : Config
  st : State
  srcHwaddr : Nat → Vector UInt8 6

/-- The address at `p`. -/
def hwaddrAt (memory : Memory) (p : Nat) : Vector UInt8 6 := Vector.ofFn fun k => memory (p + k)

/-- `ethhdr->h_dest` -/
def hDest (memory : Memory) : Vector UInt8 6 := hwaddrAt memory 0

/-- `ethhdr->h_source` -/
def hSource (memory : Memory) : Vector UInt8 6 := hwaddrAt memory 6

/-- `hdr->code` -/
def hdrCode (memory : Memory) : UInt8 := memory 15

/-- `hdr->sid` as a machine reads it where the low byte of a number comes first. -/
def hdrSid (memory : Memory) : Nat := (memory 16).toNat + (memory 17).toNat * 2 ^ 8

def tagsOf (memory : Memory) : TagList := ⟨memory, 20, ntohs memory 18⟩

/-- An answer in its buffer: whether what was written is inside of the buffer, and what was read
for it inside of the frame received. `tags` are the tags that were added. -/
structure Pack where
  memory : Memory
  fits : Bool
  inside : Bool
  tags : List (List UInt8)

/-- `setup_header` in a new buffer. -/
def Pack.start (config : Config) (dst : Vector UInt8 6) (code : UInt8) (sid : Nat) : Pack where
  memory := writeBytes (fun _ => 0) 0 (setupHeader config.pppoeHwaddr dst code sid ethPPppDisc)
  fits := true
  inside := true
  tags := []

/-- Write a tag behind the others, and add its length to that of the packet. -/
def Pack.append (pack : Pack) (tag : List UInt8) : Pack :=
  let length := ntohs pack.memory 18
  { pack with
    memory := putWord (writeBytes pack.memory (20 + length) tag) 18 (length + tag.length)
    fits := pack.fits && 20 + length + tag.length ≤ etherMaxLen
    tags := pack.tags ++ [tag] }

def addTag (pack : Pack) (type : Nat) (data : List UInt8) : Pack :=
  pack.append (bytes16 type ++ bytes16 data.length ++ data)

def tagBytes (tags : TagList) (n : Nat) : List UInt8 :=
  readBytes tags.data (tags.base + n) (4 + tags.length n)

/-- A whole tag is inside of a frame of `size` bytes. -/
def Whole (tags : TagList) (size n : Nat) : Prop := tags.base + n + (4 + tags.length n) ≤ size

instance (tags : TagList) (size n : Nat) : Decidable (Whole tags size n) :=
  inferInstanceAs (Decidable (_ ≤ _))

/-- Copy a tag of a frame of `size` bytes. -/
def addTag2 (tags : TagList) (size : Nat) (pack : Pack) (n : Nat) : Pack :=
  { pack.append (tagBytes tags n) with inside := pack.inside && Whole tags size n }

/-- Copy a tag, if there is one. -/
def addFound (tags : TagList) (size : Nat) (pack : Pack) (tag : Option Nat) : Pack :=
  tag.elim pack (addTag2 tags size pack)

/-- `pppoe_gen_cookie` -/
def pppoeGenCookie (config : Config) (serv client : Vector UInt8 6) : List UInt8 :=
  (config.md5 (config.l2tpSecret ++ serv.toList ++ client.toList)).toList

/-- `pppoe_send_err` -/
def pppoeSendErr (config : Config) (tags : TagList) (size : Nat) (addr : Vector UInt8 6)
    (hostUniq relaySid : Option Nat) (code : UInt8) (tagType : Nat) : Pack :=
  let named := addTag (Pack.start config addr code 0) tagAcName config.pppoeAcName
  let failed := addTag named tagType []
  addFound tags size (addFound tags size failed hostUniq) relaySid

/-- `pppoe_send_PADO` -/
def pppoeSendPado (config : Config) (tags : TagList) (size : Nat) (addr : Vector UInt8 6)
    (hostUniq relaySid serviceName : Option Nat) : Pack :=
  let named := addTag (Pack.start config addr codePado 0) tagAcName config.pppoeAcName
  let offered := addFound tags size named serviceName
  let signed := addTag offered tagAcCookie (pppoeGenCookie config config.pppoeHwaddr addr)
  addFound tags size (addFound tags size signed hostUniq) relaySid

/-- `pppoe_send_PADS`. The service name is copied without a look whether there is one. -/
def pppoeSendPads (config : Config) (tags : TagList) (size sid : Nat) (addr : Vector UInt8 6)
    (hostUniq relaySid serviceName : Option Nat) : Pack :=
  let named := addTag (Pack.start config addr codePads sid) tagAcName config.pppoeAcName
  let offered := serviceName.elim { named with inside := false } (addTag2 tags size named)
  addFound tags size (addFound tags size offered hostUniq) relaySid

/-- The tags that a loop has found. -/
structure Found where
  hostUniq : Option Nat
  relaySid : Option Nat
  acCookie : Option Nat
  serviceName : Option Nat
  serviceMatch : Bool
  inside : Bool
deriving DecidableEq, Repr

def Found.initial : Found := ⟨none, none, none, none, false, true⟩

/-- Note whether an access was where it may be. -/
def Found.note (found : Found) (within : Prop) [Decidable within] : Found :=
  { found with inside := found.inside && within }

/-- Read the header of a tag. -/
def lookTag (tags : TagList) (size : Nat) (found : Found) (n : Nat) : Found :=
  found.note (tags.base + n + 4 ≤ size)

/-- A service name that is compared with the configured one is the same. -/
def sameName (config : Config) (tags : TagList) (n : Nat) : Prop :=
  tags.length n = config.pppoeServiceName.length ∧
    readBytes tags.data (tags.base + n + 4) (tags.length n) = config.pppoeServiceName

instance (config : Config) (tags : TagList) (n : Nat) : Decidable (sameName config tags n) :=
  inferInstanceAs (Decidable (_ ∧ _))

/-- Compare a service name with the configured one; the values are compared if the lengths are
equal. -/
def Found.compare (config : Config) (tags : TagList) (size n : Nat) (found : Found) : Found :=
  found.note (tags.length n = config.pppoeServiceName.length → Whole tags size n)

/-- What the loop of `pppoe_recv_PADI` does with a service name. -/
def padiName (config : Config) (tags : TagList) (size : Nat) (found : Found) (n : Nat) : Found :=
  if config.pppoeOnlyEqualSvcName ∧ config.pppoeServiceName ≠ [] ∧ tags.length n = 0 then found
  else if config.pppoeServiceName ≠ [] ∧ tags.length n ≠ 0 then
    let compared := found.compare config tags size n
    if sameName config tags n then { compared with serviceName := some n, serviceMatch := true }
    else compared
  else { found with serviceName := some n, serviceMatch := true }

/-- What the loop of `pppoe_recv_PADI` does with a tag. -/
def padiTag (config : Config) (tags : TagList) (size : Nat) (found : Found) (n : Nat) : Found :=
  if tags.type n = tagServiceName then padiName config tags size found n
  else if tags.type n = tagHostUniq then { found with hostUniq := some n }
  else if tags.type n = tagRelaySessionId then { found with relaySid := some n }
  else found

/-- What the loop of `pppoe_recv_PADR` does with a service name. -/
def padrName (config : Config) (tags : TagList) (size : Nat) (found : Found) (n : Nat) : Found :=
  let named := { found with serviceName := some n }
  if tags.length n = 0 then { named with serviceMatch := true }
  else if config.pppoeServiceName ≠ [] then
    let compared := named.compare config tags size n
    if sameName config tags n then { compared with serviceMatch := true } else compared
  else { named with serviceMatch := true }

/-- What the loop of `pppoe_recv_PADR` does with a tag. -/
def padrTag (config : Config) (tags : TagList) (size : Nat) (found : Found) (n : Nat) : Found :=
  let found := lookTag tags size found n
  if tags.type n = tagServiceName then padrName config tags size found n
  else if tags.type n = tagHostUniq then { found with hostUniq := some n }
  else if tags.type n = tagAcCookie then { found with acCookie := some n }
  else if tags.type n = tagRelaySessionId then { found with relaySid := some n }
  else found

/-- How a frame is handled: the server, the answers sent, the session that was shut down, whether
the frame was passed on to the master, and whether what was read of it is inside of it. -/
structure Handled where
  server : Concentrator
  sent : List Pack
  shut : Option Nat
  forwarded : Bool
  inside : Bool

def discarded (server : Concentrator) : Handled := ⟨server, [], none, false, true⟩

/-- `pppoe_recv_PADI` -/
def pppoeRecvPadi (server : Concentrator) (memory : Memory) (size : Nat) : Handled :=
  let config := server.config
  let tags := tagsOf memory
  if hdrSid memory ≠ 0 then discarded server
  else
    let scanned := tags.scan (lookTag tags size) (padiTag config tags size) .initial 0
    let found := scanned.1
    if ¬ scanned.2 ∨ ¬ found.serviceMatch then { discarded server with inside := found.inside }
    else
      let pack := pppoeSendPado config tags size (hSource memory) found.hostUniq found.relaySid
        found.serviceName
      { discarded server with sent := [pack], inside := found.inside }

/-- Open a session for the client at `source`. -/
def openFor (server : Concentrator) (source : Vector UInt8 6) : Concentrator :=
  { server with
    st := Server.pppoeRecvPadr server.st
    srcHwaddr := Function.update server.srcHwaddr server.st.sessionfree source }

/-- `pppoe_recv_PADR` -/
def pppoeRecvPadr (server : Concentrator) (memory : Memory) (size : Nat) : Handled :=
  let config := server.config
  let tags := tagsOf memory
  if hDest memory = bcAddr then discarded server
  else if hdrSid memory ≠ 0 then discarded server
  else
    let found := tags.walk (padrTag config tags size) .initial 0
    if ¬ found.serviceMatch then
      let pack := pppoeSendErr config tags size (hSource memory) found.hostUniq found.relaySid
        codePads tagServiceNameError
      { discarded server with sent := [pack], inside := found.inside }
    else
      match found.acCookie with
      | none => { discarded server with inside := found.inside }
      | some cookie =>
          if tags.length cookie ≠ 16 then { discarded server with inside := found.inside }
          else
            let compared := found.note (Whole tags size cookie)
            if pppoeGenCookie config (hDest memory) (hSource memory) ≠
                readBytes memory (tags.base + cookie + 4) 16 then
              { discarded server with inside := compared.inside }
            else
              let sid := server.st.sessionfree
              let pack := pppoeSendPads config tags size sid (hSource memory) found.hostUniq
                found.relaySid found.serviceName
              { discarded (openFor server (hSource memory)) with
                sent := [pack], inside := compared.inside }

/-- `pppoe_recv_PADT` -/
def pppoeRecvPadt (server : Concentrator) (memory : Memory) : Handled :=
  let sid := hdrSid memory
  if hDest memory = bcAddr then discarded server
  else if sid ≠ 0 ∧ sid < maxSession ∧ (server.st.session sid).tunnel = tunnelIdPppoe then
    -- a session that is not in use is left as it is
    { discarded { server with st := sessionshutdown server.st sid "Client shutdown" 3 0 none } with
      shut := if (server.st.session sid).opened = 0 then none else some sid }
  else discarded server

/-- The checks of `process_pppoe_disc`. -/
def Accepts (config : Config) (memory : Memory) (size : Nat) : Prop :=
  20 ≤ size ∧ (hDest memory = bcAddr ∨ hDest memory = config.pppoeHwaddr) ∧
    hSource memory ≠ bcAddr ∧ (memory 6).toNat % 2 = 0 ∧ 20 + ntohs memory 18 ≤ size ∧
    (memory 14).toNat / 2 ^ 4 = 1 ∧ (memory 14).toNat % 2 ^ 4 = 1

instance (config : Config) (memory : Memory) (size : Nat) :
    Decidable (Accepts config memory size) :=
  inferInstanceAs (Decidable (_ ∧ _))

/-- `process_pppoe_disc` for a frame of `size` bytes. -/
def processPppoeDisc (server : Concentrator) (memory : Memory) (size : Nat) : Handled :=
  if ¬ server.config.clusterIamMaster then
    { discarded server with forwarded := hdrCode memory ≠ codePadi }
  else if ¬ Accepts server.config memory size then discarded server
  else if hdrCode memory = codePadi then pppoeRecvPadi server memory size
  else if hdrCode memory = codePadr then pppoeRecvPadr server memory size
  else if hdrCode memory = codePadt then pppoeRecvPadt server memory
  else discarded server

end L2tpns.Pppoe
