import Sqrkal.Discovery.Datagram

/-! # SIP messages

`parse_sip` looks for words in the text. Positions are kept in variables of type
`unsigned int`, so where `size_t` is wider a failed search no longer compares equal
to `npos`.
-/

namespace Sqrkal.Discovery
open Foundation Message Library

variable (env : Env) (host : Host)

/-! ## Positions -/

def npos : ℕ := 2 ^ host.sizeBits - 1

/-- The result of a search as a `size_t`. -/
def position (r : Option ℕ) : ℕ := r.getD (npos host)

/-- The result of a search stored in an `unsigned int`. -/
def uintPosition (r : Option ℕ) : ℕ := toUint (position host r)

/-- The test `(l = s.find(..)) != string::npos`. -/
def isFound (l : ℕ) : Bool := l ≠ npos host

def substrOp (s : List Byte) (pos n : ℕ) : Op (List Byte) :=
  match substr s pos n with
  | some t => pure t
  | none => throw .outOfRange

/-- The text from `skip` behind a keyword's place `l` to the next of some characters:
`s.substr(l+skip, m-l-skip)` with `m = s.find_first_of(stop, l+skip)`, and `m`. -/
def fieldAfter (s : List Byte) (l skip : ℕ) (stop : List Byte) : Op (List Byte × ℕ) := do
  let m := uintPosition host (findFirstOf s stop (toUint (l + skip)))
  let field ← substrOp s (toUint (l + skip)) (toUint (m - l - skip))
  return (field, m)

/-! ## The session description -/

/-- The port of an `m=audio` line. The position behind it is left uninitialised when
there is none. -/
def parseAudio (s : List Byte) (inward : Bool) : Op ℕ := do
  let l := uintPosition host (find s (text "m=audio ") 0)
  if isFound host l then
    let (field, m) ← fieldAfter host s l 8 (text " ")
    setGlobals fun g =>
      if inward then { g with outport := atoi field } else { g with inport := atoi field }
    return m
  else
    let t ← onLib nextTick
    return ((env.junk t).load32 0).toNat

/-- The address of a `c=IN IP4` line. -/
def parseConnection (s : List Byte) (inward : Bool) (l : ℕ) : Op Unit := do
  let (field, _) ← fieldAfter host s l 9 (text " \n")
  setGlobals fun g =>
    if inward then { g with rtpDest := inetAddr (Mem.cstr field) }
    else { g with rtpSrc := inetAddr (Mem.cstr field) }

variable (F : Functors Globals)

/-- `stop_discovering`. -/
def stopDiscovering : Op Unit := do
  (if (← get).ext.applySrpp then do let _ ← stopSession env F else pure ())
  setGlobals fun g => { g with isDiscovering := false }
  let _ ← addAllRules false true

/-- The media profile, looked for from `m` on. An outgoing message that already
uses SRPP ends the discovery, and with it the parsing: the result is `false` then. -/
def parseProfile (s : List Byte) (inward : Bool) (m : ℕ) : Op Bool := do
  if (find s (text "RTP/SAVP ") m).isSome || (find s (text "zrtp") m).isSome then
    setGlobals fun g => { g with isSrtp := true }
    return true
  else if (find s (text "RTP/AVP ") m).isSome then
    setGlobals fun g => { g with isSrtp := false }
    return true
  else if (find s (text "SRPP:") m).isSome then
    if !inward then
      stopDiscovering env F
      return false
    else
      setGlobals fun g => { g with isSrpp := true }
      return true
  else return true

/-! ## The branches of `parse_sip` -/

/-- The destination goes back to the last server. -/
def backToServer : Op Unit :=
  setGlobals fun g => { g with outAddr := { g.outAddr with addr := g.lastOutDest } }

/-- The rows of `sizes.txt`. -/
def sizeRows (input output : List ℤ) : List (ℤ × Option ℤ) :=
  input.mapIdx fun i n => (n, output[i]?)

/-- The end of the BYE branch: rules, counters and the destination are reset. -/
def finishBye (applySrpp signalingComplete : Bool) : Op ℤ := do
  let _ ← addAllRtpRules false true
  setGlobals fun g =>
    { g with sentCount := 0, recvCount := 0, sawInviteAlready := false, sawByeAlready := false }
  backToServer
  observe (.byeHandled applySrpp signalingComplete)
  return 0

def parseBye : Op ℤ := do
  if (← get).ext.sawByeAlready then return -1
  else
    let w ← get
    setGlobals fun g =>
      { g with
        sawByeAlready := true
        sizesTxt := sizeRows g.inputPacketSizes g.outputPacketSizes
        inputPacketSizes := [], outputPacketSizes := [], isSessionOn := false }
    (if (← get).ext.applySrpp then do let _ ← stopSession env F else pure ())
    finishBye w.ext.applySrpp w.lib.flags.signalingComplete

/-- The media session starts after an INVITE, a 200 OK and an ACK. -/
def startMedia (s : List Byte) (inward : Bool) : Op Unit := do
  let l := uintPosition host (find s (text "c=IN IP4 ") 0)
  (if isFound host l && !(← get).ext.sawAck then parseConnection host s inward l else pure ())
  setGlobals fun g => { g with rtpPorts := g.rtpPorts ++ [g.inport, g.outport] }
  let g := (← get).ext
  if (!g.sentInvite && g.sawAck) || (g.sentInvite && g.saw200ok && g.sawAck) then
    let _ ← addAllRtpRules true true
    setGlobals fun g =>
      { g with
        sentInvite := false, sawAck := false, saw200ok := false, sawInviteAlready := false
        isSessionOn := true }
  else pure ()

/-- A 200 OK or an ACK. -/
def parseOk (s : List Byte) (inward : Bool) : Op ℤ := do
  (if contains s (text "200 OK") then
    setGlobals fun g => if g.sentInvite && inward then { g with saw200ok := true } else g
  else
    setGlobals fun g =>
      if g.sawInviteAlready && contains s (text "Route:") then { g with sawAck := true } else g)
  let goOn ← (if contains s (text "Content-Type: application/sdp") then do
      parseProfile env F s inward (← parseAudio env host s inward)
    else pure true)
  if !goOn then return 0
  else
    let g := (← get).ext
    if g.inport = 0 ∨ g.outport = 0 then return 0
    else
      (if !g.isSessionOn && g.sawInviteAlready then startMedia host s inward else pure ())
      backToServer
      return 0

/-- `resolve_and_set`, for a name that is no address. -/
def setServer (hostname : List Byte) : Op Unit := do
  let name := Mem.cstr hostname
  setGlobals fun g =>
    let addr := if isPtonAddress name then inetAddr name else (host.resolve name).getD g.outAddr.addr
    { g with outAddr := ⟨addr, htonsInt 5060⟩ }

def rememberServer : Op Unit := setGlobals fun g => { g with lastOutDest := g.outAddr.addr }

/-- An INVITE with a session description. -/
def parseInvite (s : List Byte) (inward : Bool) : Op ℤ := do
  setGlobals fun g => { g with sawInviteAlready := true }
  if !(← parseProfile env F s inward (← parseAudio env host s inward)) then return 0
  else
    let l := uintPosition host (find s (text "c=IN IP4 ") 0)
    (if isFound host l then parseConnection host s inward l else pure ())
    if inward then return 0
    else
      setGlobals fun g => { g with sentInvite := true }
      let l := uintPosition host (find s (text "INVITE sip:") 0)
      let m := uintPosition host (find s (text "@") (toUint (l + 11)))
      let l := uintPosition host (find s (text " ") m)
      let name ← substrOp s (toUint (m + 1)) (toUint (l - m - 1))
      setServer host (text "sip." ++ name)
      rememberServer
      return 0

def parseRegister (s : List Byte) (inward : Bool) : Op ℤ := do
  let l := uintPosition host (find s (text "REGISTER sip:") 0)
  let e := position host (find s (text " ") (toUint (l + 13)))
  let name ← substrOp s (toUint (l + 13)) ((e - l - 13 : ℤ) % 2 ^ host.sizeBits).toNat
  setServer host (text "sip." ++ name)
  (if !inward then rememberServer else pure ())
  return 0

/-- A SUBSCRIBE or a PUBLISH; both searches go on fourteen characters later. -/
def parseSubscribe (s : List Byte) (inward : Bool) : Op ℤ := do
  let l := uintPosition host
    (if contains s (text "SUBSCRIBE sip:") then find s (text "SUBSCRIBE sip:") 0
     else find s (text "PUBLISH sip:") 0)
  let m := uintPosition host (find s (text "@") (toUint (l + 14)))
  let l := uintPosition host (findFirstOf s (text " :") m)
  let name ← substrOp s (toUint (m + 1)) (toUint (l - m - 1))
  setServer host name
  (if !inward then rememberServer else pure ())
  return 0

/-- `parse_sip`. -/
def parseSip (s : List Byte) (inward : Bool) : Op ℤ := do
  if contains s (text "BYE ") then parseBye env F
  else if contains s (text "SIP/2.0 4") then
    backToServer
    return 0
  else if contains s (text "200 OK") || contains s (text "ACK ") then parseOk env host F s inward
  else if contains s (text "INVITE sip:") && contains s (text "Content-Type: application/sdp") then
    parseInvite env host F s inward
  else if contains s (text "REGISTER sip:") then parseRegister host s inward
  else if contains s (text "SUBSCRIBE sip:") || contains s (text "PUBLISH sip:") then
    parseSubscribe host s inward
  else
    backToServer
    return 0

/-! ## Two branches in parts -/

section Parts
variable (s : List Byte) (inward : Bool)

/-- What a 200 OK or an ACK is noted as. -/
def noteAnswer : Op Unit :=
  if contains s (text "200 OK") then
    setGlobals fun g => if g.sentInvite && inward then { g with saw200ok := true } else g
  else
    setGlobals fun g =>
      if g.sawInviteAlready && contains s (text "Route:") then { g with sawAck := true } else g

/-- The session description of a 200 OK or an ACK, if there is one. -/
def readAnswer : Op Bool :=
  if contains s (text "Content-Type: application/sdp") then do
    parseProfile env F s inward (← parseAudio env host s inward)
  else pure true

/-- The end of the branch of a 200 OK or an ACK. -/
def startIfReady (goOn : Bool) : Op ℤ := do
  if !goOn then return 0
  else
    let g := (← get).ext
    if g.inport = 0 ∨ g.outport = 0 then return 0
    else
      (if !g.isSessionOn && g.sawInviteAlready then startMedia host s inward else pure ())
      backToServer
      return 0

theorem parseOk_eq : parseOk env host F s inward = (do
    noteAnswer s inward
    startIfReady host s inward (← readAnswer env host F s inward)) := rfl

/-- An INVITE behind its media profile. -/
def finishInvite : Op ℤ := do
  let l := uintPosition host (find s (text "c=IN IP4 ") 0)
  (if isFound host l then parseConnection host s inward l else pure ())
  if inward then return 0
  else
    setGlobals fun g => { g with sentInvite := true }
    let l := uintPosition host (find s (text "INVITE sip:") 0)
    let m := uintPosition host (find s (text "@") (toUint (l + 11)))
    let l := uintPosition host (find s (text " ") m)
    let name ← substrOp s (toUint (m + 1)) (toUint (l - m - 1))
    setServer host (text "sip." ++ name)
    rememberServer
    return 0

theorem parseInvite_eq : parseInvite env host F s inward = (do
    setGlobals fun g => { g with sawInviteAlready := true }
    if !(← parseProfile env F s inward (← parseAudio env host s inward)) then return 0
    else finishInvite host s inward) := rfl

end Parts

end Sqrkal.Discovery
