import AirportAwdl.Lib.CheckedMemory
import AirportAwdl.Lib.Fallible
import AirportAwdl.Sync

/-!
# SAE in net80211

`ieee80211_sae.c` with the wrapper of hostap in `rtw_sae.c`, and the transitions of
`ieee80211_newstate` in `ieee80211_proto.c` that clear a session or send an authentication frame.
A session lives in the heap until it is freed, and an access to a freed one is a fault; so is a
read outside of a received body and a store outside of an array of the session. hostap, memory and
the driver answer as they like, and so does everything that changes the state of net80211 around
these functions. After a management send the handlers do not look at a session, so what happens
during the send may as well happen right after the handler.

`log` is no part of the source: it records what happens to the sessions.
-/

namespace AirportAwdl.Net80211

open ByteBuffer CheckedMemory

/-- `ieee80211_state` -/
inductive IcState where
  | init | scan | auth | assoc | run
deriving DecidableEq, Repr

/-- The management reasons of `ieee80211_newstate`: the subtypes that it tells apart, -1 and all
others. -/
inductive Mgt where
  | auth | deauth | none | other
deriving DecidableEq, Repr

/-- `sae_state` of hostap. -/
inductive SaeState where
  | nothing | committed | confirmed | accepted
deriving DecidableEq, Repr

/-- `rtw_sae`: the data of hostap, with the state that the wrapper keeps in it. -/
structure RtwSae (D : Type) where
  data : D
  state : SaeState

/-- `net80211_sae_session` -/
structure SaeSession (D : Type) where
  crypto : RtwSae D
  peer : Mac
  own : Mac
  token : Bytes := List.replicate 256 0
  confirm : Bytes := List.replicate 34 0
  tokenLength : ℕ := 0
  tokenRequests : UInt32 := 0
  h2e : Bool := false
  committed : Bool := false
  confirmed : Bool := false

/-- `ieee80211_node` -/
structure Node where
  bssid : Mac
  rsnakms : UInt32
  saeH2e : Bool
  essid : Bytes
  pmkid : Bytes
  /-- `IEEE80211_NODE_PMKID` -/
  hasPmkid : Bool
  portValid : Bool
  replaycntOk : Bool
deriving DecidableEq, Repr

/-- An authentication frame: what `ieee80211_recv_auth` hands on. -/
structure AuthFrame where
  addr1 : Mac
  addr2 : Mac
  addr3 : Mac
  seq : UInt16
  status : UInt16
  body : Bytes
deriving DecidableEq, Repr

inductive SaeEvent where
  /-- A session is made. -/
  | begun (session : ℕ) (own peer : Mac)
  /-- It is freed. -/
  | ended (session : ℕ)
  /-- A commit of the session is given out. -/
  | commitSent (session : ℕ)
  /-- A token request is counted. -/
  | tokenRequest (session : ℕ)
  /-- A token request makes the handler send the commit again. -/
  | resend (session : ℕ)
  /-- `rtw_sae_rx_commit` returned. -/
  | commitReceived (session : ℕ) (frame : AuthFrame) (accepted : Bool)
  /-- The confirm of the session is made. -/
  | confirmMade (session : ℕ)
  /-- `rtw_sae_rx_confirm` returned, in a state of net80211. -/
  | confirmReceived (session : ℕ) (frame : AuthFrame) (state : IcState) (accepted : Bool)
  /-- `ic_psk` and `ni_pmkid` are written. -/
  | keys (session : ℕ)
  /-- The transition to ASSOC is started. -/
  | associate (session : ℕ)
deriving DecidableEq, Repr

/-- hostap, the kernel and the driver, with a state `W` of their own. -/
structure Host (W D : Type) where
  malloc : W → Bool × W
  /-- `sae_set_group` up to the own commit. -/
  prepare : (own peer : Mac) → (password ssid : Bytes) → (h2e : Bool) → W → Option D × W
  /-- `sae_write_commit`, with the buffers that it needs. -/
  writeCommit : RtwSae D → Option Bytes → W → (Option Bytes × D) × W
  /-- The status of `sae_parse_commit`. -/
  parseCommit : RtwSae D → Bytes → W → (UInt16 × D) × W
  /-- `sae_process_commit` failed. -/
  processCommit : RtwSae D → W → (Bool × D) × W
  /-- `sae_write_confirm` -/
  writeConfirm : RtwSae D → W → (Option Bytes × D) × W
  /-- `sae_check_confirm` failed. -/
  checkConfirm : RtwSae D → Bytes → W → (Bool × D) × W
  pmk : D → Bytes
  pmkid : D → Bytes
  /-- `ieee80211_getmgmt` has a buffer. -/
  getmgmt : ℕ → W → Bool × W
  /-- `ieee80211_mgmt_output` returned 0. -/
  mgmtOutput : W → Bool × W
  /-- The driver's own `newstate` goes on to `ieee80211_newstate`. -/
  driverNewstate : IcState → Mgt → W → Bool × W

/-- What the rest of the system sets: the credential, the address and the nodes. -/
structure Config where
  saeEnabled : Bool
  saePassword : Bytes
  myaddr : Mac
  bss : ℕ
  nodes : ℕ → Node

/-- `ieee80211com` -/
structure Com (W D : Type) extends Config where
  state : IcState := .init
  /-- `ic_sae` -/
  sae : Option ℕ := none
  /-- The heap: `none` is free. -/
  sessions : ℕ → Option (SaeSession D) := fun _ => none
  /-- The first address that no session had. -/
  made : ℕ := 0
  saeStage : UInt32 := 0
  saeError : UInt32 := 0
  psk : Bytes := []
  /-- `IEEE80211_F_PSK` -/
  flagPsk : Bool := false
  /-- `IEEE80211_F_MFPR` -/
  flagMfpr : Bool := false
  mgtTimer : ℕ := 0
  assocStatus : UInt16 := 0
  world : W
  log : List SaeEvent := []

inductive SaeFault where
  /-- A freed session was used. -/
  | freed
  | memory (fault : Fault)
deriving DecidableEq, Repr

abbrev Net (W D : Type) := StateT (Com W D) (Except SaeFault)

variable {W D α : Type}

def record (e : SaeEvent) : Net W D Unit := modify fun ic => { ic with log := ic.log ++ [e] }

/-- A step that is only taken if `c`. -/
def onlyIf (c : Bool) (m : Net W D Unit) : Net W D Unit := if c then m else pure ()

/-- An answer from outside. -/
def ask (f : W → α × W) : Net W D α := do
  let ic ← get
  let answer := f ic.world
  set { ic with world := answer.2 }
  return answer.1

/-- The session behind a pointer. -/
def session (n : ℕ) : Net W D (SaeSession D) := do
  match (← get).sessions n with
  | some s => return s
  | none => throw .freed

/-- A store to the session behind a pointer. -/
def assign (n : ℕ) (f : SaeSession D → SaeSession D) : Net W D Unit := do
  let s ← session n
  modify fun ic => { ic with sessions := Function.update ic.sessions n (some (f s)) }

/-- A call of `rtw_sae.c` on the session behind a pointer. -/
def crypto (n : ℕ) (f : RtwSae D → W → (α × RtwSae D) × W) : Net W D α := do
  let s ← session n
  let answer ← ask (f s.crypto)
  assign n fun s => { s with crypto := answer.2 }
  return answer.1

def inBounds (m : Checked α) : Net W D α :=
  match m with
  | .ok a => return a
  | .error fault => throw (.memory fault)

def rtwSaeBegin (host : Host W D) (own peer : Mac) (password ssid : Bytes) (h2e : Bool) (w : W) :
    Option (RtwSae D) × W :=
  if password = [] ∨ password.length > 63 ∨ ssid = [] ∨ ssid.length > 32 ∨ own = peer then (none, w)
  else
    let answer := host.prepare own peer password ssid h2e w
    (answer.1.map fun data => ⟨data, .committed⟩, answer.2)

def copyOut (out : Option Bytes) (max : ℕ) : Option Bytes := out.filter fun out => out.length ≤ max

def rtwSaeWriteCommit (host : Host W D) (token : Bytes) (max : ℕ) (sae : RtwSae D) (w : W) :
    (Option Bytes × RtwSae D) × W :=
  if token.length > 256 then ((none, sae), w)
  else
    let answer := host.writeCommit sae (if token = [] then none else some token) w
    ((copyOut answer.1.1 max, { sae with data := answer.1.2 }), answer.2)

/-- `rtw_sae_rx_commit`; `int` as 32 bits. -/
def rtwSaeRxCommit (host : Host W D) (body : Bytes) (sae : RtwSae D) (w : W) :
    (UInt32 × RtwSae D) × W :=
  if body.length < 98 ∨ body.length > 512 then ((0xffffffff, sae), w)
  else
    let parsed := host.parseCommit sae body w
    let sae := { sae with data := parsed.1.2 }
    if parsed.1.1 ≠ 0 then ((parsed.1.1.toUInt32, sae), parsed.2)
    else
      let processed := host.processCommit sae parsed.2
      ((if processed.1.1 then 1 else 0, { sae with data := processed.1.2 }), processed.2)

def rtwSaeWriteConfirm (host : Host W D) (max : ℕ) (sae : RtwSae D) (w : W) :
    (Option Bytes × RtwSae D) × W :=
  if max < 34 then ((none, sae), w)
  else
    let answer := host.writeConfirm sae w
    match answer.1.1 with
    | none => ((none, { sae with data := answer.1.2 }), answer.2)
    | some out => ((copyOut (some out) max, ⟨answer.1.2, .confirmed⟩), answer.2)

/-- `rtw_sae_rx_confirm` returned 0. -/
def rtwSaeRxConfirm (host : Host W D) (body : Bytes) (sae : RtwSae D) (w : W) :
    (Bool × RtwSae D) × W :=
  if body.length ≠ 34 then ((false, sae), w)
  else
    let answer := host.checkConfirm sae body w
    if answer.1.1 then ((false, { sae with data := answer.1.2 }), answer.2)
    else ((true, ⟨answer.1.2, .accepted⟩), answer.2)

def rtwSaeKeys (host : Host W D) (n ni : ℕ) : Net W D Unit := do
  let s ← session n
  if s.crypto.state ≠ .accepted then return
  else
    record (.keys n)
    modify fun ic => { ic with
      psk := host.pmk s.crypto.data
      nodes := Function.update ic.nodes ni
        { ic.nodes ni with pmkid := host.pmkid s.crypto.data } }

/-- The session is freed, if there is one. -/
def saeFree : Net W D Unit := do
  match (← get).sae with
  | some n =>
    let _ ← session n
    record (.ended n)
    modify fun ic => { ic with sessions := Function.update ic.sessions n none }
  | none => pure ()

/-- `ieee80211_sae_clear` -/
def saeClear (credentials : Bool) : Net W D Unit := do
  saeFree
  modify fun ic => { ic with sae := none }
  if credentials then
    modify fun ic => { ic with saePassword := [], saeEnabled := false, flagMfpr := false }

/-- `IEEE80211_AKM_SAE` -/
def akmSae : UInt32 := 0x10

/-- The making of a session in `ieee80211_sae_auth`. -/
def saeBegin (host : Host W D) (ni : ℕ) : Net W D (Option ℕ) := do
  if !(← ask host.malloc) then return none
  else
    let ic ← get
    let node := ic.nodes ni
    match ← ask (rtwSaeBegin host ic.myaddr node.bssid ic.saePassword node.essid node.saeH2e) with
    | none => return none
    | some sae =>
      let n := (← get).made
      record (.begun n ic.myaddr node.bssid)
      modify fun ic => { ic with
        sessions := Function.update ic.sessions n
          (some { crypto := sae, peer := node.bssid, own := ic.myaddr, h2e := node.saeH2e })
        made := n + 1
        sae := some n
        saeStage := 2 }
      return some n

/-- The body that `ieee80211_sae_auth` sends. -/
def authBody (host : Host W D) (n : ℕ) (seq : UInt16) : Net W D (Option Bytes) := do
  let s ← session n
  if seq = 1 then
    let token ← inBounds ((Span.all s.token).readSlice s.token 0 s.tokenLength)
    crypto n (rtwSaeWriteCommit host token 512)
  else if seq = 2 ∧ s.committed then
    if !s.confirmed then
      match ← crypto n (rtwSaeWriteConfirm host 34) with
      | none => return none
      | some out =>
        assign n fun s => { s with confirm := overwrite s.confirm 0 out }
        if out.length ≠ 34 then return none
        else
          record (.confirmMade n)
          assign n fun s => { s with confirmed := true }
          return some (← session n).confirm
    else return some s.confirm
  else return none

/-- The frame around it. -/
def authFrame (host : Host W D) (n : ℕ) (seq : UInt16) (body : Option Bytes) :
    Net W D (Option Bytes) := do
  match body with
  | none => return none
  | some body =>
    if body = [] ∨ body.length > 512 then return none
    else if !(← ask (host.getmgmt (body.length + 6))) then return none
    else
      let s ← session n
      onlyIf (seq = 1) (record (.commitSent n))
      return some ([3, 0, seq.toUInt8, 0, if seq = 1 ∧ s.h2e then 126 else 0, 0] ++ body)

/-- A session that belongs to another network or another address is given up. -/
def saeLeave (ni : ℕ) : Net W D Unit := do
  let ic ← get
  match ic.sae with
  | none => pure ()
  | some n =>
    let s ← session n
    if s.peer ≠ (ic.nodes ni).bssid ∨ s.own ≠ ic.myaddr then saeClear false

/-- `ieee80211_sae_auth` -/
def saeAuth (host : Host W D) (ni : ℕ) (seq : UInt16) : Net W D (Option Bytes) := do
  let ic ← get
  if !ic.saeEnabled ∨ (ic.nodes ni).rsnakms ≠ akmSae then return none
  else
    saeLeave ni
    match (← get).sae with
    | some n => authFrame host n seq (← authBody host n seq)
    | none =>
      if seq ≠ 1 ∨ ic.saePassword = [] then return none
      else
        match ← saeBegin host ni with
        | none => return none
        | some n => authFrame host n seq (← authBody host n seq)

/-- `IEEE80211_TRANS_WAIT` -/
def transWait : ℕ := 5

/-- `ieee80211_mgmt_output` at the end of `ieee80211_send_mgmt`. -/
def mgmtOutput (host : Host W D) (timer : ℕ) : Net W D Unit := do
  if (← ask host.mgmtOutput) ∧ timer ≠ 0 then modify fun ic => { ic with mgtTimer := timer }

/-- `ieee80211_send_mgmt` with an authentication frame. Without SAE it is an open one. -/
def sendAuth (host : Host W D) (ni : ℕ) (seq : UInt16) : Net W D Unit := do
  let ic ← get
  if ic.saeEnabled ∧ (ic.nodes ni).rsnakms = akmSae then
    match ← saeAuth host ni seq with
    | none => pure ()
    | some _ => mgmtOutput host transWait
  else if ← ask (host.getmgmt 6) then mgmtOutput host transWait

/-- `ieee80211_send_mgmt` with another frame. -/
def sendOther (host : Host W D) (timer : ℕ) : Net W D Unit := do
  if ← ask (host.getmgmt 0) then mgmtOutput host timer

/-- The case INIT of `ieee80211_newstate`. -/
def enterInit (host : Host W D) (ostate : IcState) (mgt : Mgt) : Net W D Unit := do
  onlyIf (ostate = .run ∧ mgt ≠ .none) (sendOther host 0)
  onlyIf ((ostate = .run ∨ ostate = .assoc) ∧ mgt ≠ .none) (sendOther host 0)
  if ostate ≠ .init then modify fun ic => { ic with mgtTimer := 0 }

def broadcast : Mac := Mac.of 0xff 0xff 0xff 0xff 0xff 0xff

/-- The case SCAN. What a new scan does next is a transition of its own. -/
def enterScan : Net W D Unit :=
  modify fun ic => { ic with
    nodes := Function.update ic.nodes ic.bss { ic.nodes ic.bss with bssid := broadcast } }

/-- The case AUTH. -/
def enterAuth (host : Host W D) (ostate : IcState) (mgt : Mgt) : Net W D Unit := do
  let ni := (← get).bss
  match ostate with
  | .init => pure ()
  | .scan => sendAuth host ni 1
  | .auth | .assoc => if mgt = .auth then sendAuth host ni 1
  | .run =>
    if mgt = .auth then
      sendAuth host ni 2
      -- stay RUN
      modify fun ic => { ic with state := ostate }
    else if mgt = .deauth then sendAuth host ni 1

/-- The case ASSOC. -/
def enterAssoc (host : Host W D) (ostate : IcState) : Net W D Unit := do
  if ostate = .auth ∨ ostate = .run then sendOther host transWait

/-- The case RUN. -/
def enterRun (ostate : IcState) : Net W D Unit := do
  if ostate = .scan ∨ ostate = .assoc then modify fun ic => { ic with mgtTimer := 0 }

/-- `ieee80211_newstate` -/
def newstate (host : Host W D) (nstate : IcState) (mgt : Mgt) : Net W D Unit := do
  let ostate := (← get).state
  onlyIf (nstate = .init ∨ nstate = .scan) (saeClear false)
  modify fun ic => { ic with state := nstate }
  match nstate with
  | .init => enterInit host ostate mgt
  | .scan => enterScan
  | .auth => enterAuth host ostate mgt
  | .assoc => enterAssoc host ostate
  | .run => enterRun ostate

/-- `ieee80211_new_state` -/
def newState (host : Host W D) (nstate : IcState) (mgt : Mgt) : Net W D Unit := do
  if ← ask (host.driverNewstate nstate mgt) then newstate host nstate mgt

/-- The token in the body of a request. -/
def requestedToken (h2e : Bool) (body : Bytes) : Checked (Option Bytes) := do
  let token ← (Span.all body).advance 2
  if h2e then
    if token.length < 3 then return none
    else
      let size := (← token.read body 1).toNat
      if (← token.read body 0) ≠ 255 ∨ size < 2 ∨ size > token.length - 2 ∨ (← token.read body 2) ≠ 93 then
        return none
      else if size - 1 > 256 then return none
      else return some (← (← token.advance 3).readSlice body 0 (size - 1))
  else if token.length = 0 ∨ token.length > 256 then return none
  else return some (← token.readSlice body 0 token.length)

/-- A request for a token. -/
def receiveTokenRequest (host : Host W D) (ni n : ℕ) (body : Bytes) : Net W D Unit := do
  if body.length < 3 then return
  else if le16 (← inBounds ((Span.all body).readSlice body 0 2)) 0 ≠ 19 then return
  else
    record (.tokenRequest n)
    assign n fun s => { s with tokenRequests := s.tokenRequests + 1 }
    let s ← session n
    if s.tokenRequests > 3 then return
    else
      match ← inBounds (requestedToken s.h2e body) with
      | none => return
      | some token =>
        let stored ← inBounds (storeList s.token 0 token)
        assign n fun s => { s with token := stored, tokenLength := token.length }
        record (.resend n)
        sendAuth host ni 1

/-- What follows `rtw_sae_rx_commit`. -/
def answerCommit (host : Host W D) (ni n : ℕ) (error : UInt32) : Net W D Unit := do
  if error ≠ 0 then modify fun ic => { ic with saeError := 0x10000 ||| error }
  else
    assign n fun s => { s with committed := true }
    modify fun ic => { ic with saeStage := 3 }
    sendAuth host ni 2

/-- A commit. -/
def receiveCommit (host : Host W D) (ni n : ℕ) (f : AuthFrame) : Net W D Unit := do
  if !(← session n).committed then
    let error ← crypto n (rtwSaeRxCommit host f.body)
    record (.commitReceived n f (error = 0))
    answerCommit host ni n error
  else sendAuth host ni 2

/-- A confirm. -/
def receiveConfirm (host : Host W D) (ni n : ℕ) (f : AuthFrame) : Net W D Unit := do
  if f.body.length ≠ 34 then modify fun ic => { ic with saeError := 0x20000 }
  else
    let accepted ← crypto n (rtwSaeRxConfirm host f.body)
    let state := (← get).state
    record (.confirmReceived n f state accepted)
    if !accepted then modify fun ic => { ic with saeError := 0x20000 }
    else
      modify fun ic => { ic with saeStage := 4, saeError := 0 }
      rtwSaeKeys host n ni
      modify fun ic => { ic with
        flagPsk := true
        nodes := Function.update ic.nodes ni
          { ic.nodes ni with hasPmkid := true, portValid := false, replaycntOk := false }
        mgtTimer := 0
        assocStatus := 0xffff }
      record (.associate n)
      newState host .assoc .auth

/-- The frame is for this session, at this time. -/
def addressed (ic : Com W D) (s : SaeSession D) (f : AuthFrame) : Prop :=
  ic.saeEnabled = true ∧ ic.state = .auth ∧ f.addr2 = s.peer ∧ f.addr3 = s.peer ∧ f.addr1 = s.own

instance instDecidableAddressed (ic : Com W D) (s : SaeSession D) (f : AuthFrame) :
    Decidable (addressed ic s f) := inferInstanceAs (Decidable (_ ∧ _))

/-- `ieee80211_sae_receive` -/
def saeReceive (host : Host W D) (ni : ℕ) (f : AuthFrame) : Net W D Unit := do
  let ic ← get
  match ic.sae with
  | none => return
  | some n =>
    let s ← session n
    if ¬addressed ic s f then return
    else if f.seq = 1 ∧ f.status = 76 ∧ !s.committed then receiveTokenRequest host ni n f.body
    else if f.seq = 1 ∧ f.status = (if s.h2e then 126 else 0) then receiveCommit host ni n f
    else if f.seq = 2 ∧ f.status = 0 ∧ s.confirmed then receiveConfirm host ni n f

inductive Call where
  /-- Anybody sends an authentication frame. -/
  | auth (ni : ℕ) (seq : UInt16)
  | receive (ni : ℕ) (frame : AuthFrame)
  | clear (credentials : Bool)
  | newstate (nstate : IcState) (mgt : Mgt)
  /-- The rest of the system sets its data; it does not touch a PMKID. -/
  | configure (config : Config)

/-- The keys stay as they are. -/
def Config.keeping (config : Config) (nodes : ℕ → Node) : Config :=
  { config with nodes := fun ni => { config.nodes ni with pmkid := (nodes ni).pmkid } }

def perform (host : Host W D) : Call → Net W D Unit
  | .auth ni seq => sendAuth host ni seq
  | .receive ni frame => saeReceive host ni frame
  | .clear credentials => saeClear credentials
  | .newstate nstate mgt => newstate host nstate mgt
  | .configure config => modify fun ic => { ic with toConfig := config.keeping ic.nodes }

def performAll (host : Host W D) (calls : List Call) : Net W D Unit := calls.forM (perform host)

/-- No session yet. -/
def Com.start (config : Config) (world : W) : Com W D := { config with world := world }

end AirportAwdl.Net80211
