import Transports.Core.Seam

/-!
# Socket options

`apply_socket_opts` of both UDP backends and `apply_tcp_socket_opts` of both TCP ones, as
the warnings they log and the result they return. The buffer sizes are one step with
parameters: set the option, read it back, and warn if what is read is less than what was
asked for. What Linux reads back is twice what it granted, so the comparison is between
different units.
-/

namespace Transports.Sockets

open Transports.Core

/-! ## What is configured -/

structure BindConfig where
  addr : SocketAddr
  reuseAddr : Bool
  reusePort : Bool
  deriving DecidableEq

/-- `BindConfig::new`. -/
def BindConfig.new (addr : SocketAddr) : BindConfig := ⟨addr, false, false⟩

inductive TimestampMode
  | none
  | kernelSw
  | hardwareRx
  deriving DecidableEq, Repr

structure RecvBufConfig where
  soRcvbuf : Option UInt32
  soRxqOvfl : Bool
  soTimestamping : TimestampMode
  soBusyPollUs : Option UInt32
  /-- Max bytes a stream backend lands per `recv_into` call. -/
  readChunk : Option Nat
  deriving DecidableEq

/-- `RecvBufConfig::default()`. -/
def RecvBufConfig.default : RecvBufConfig := ⟨none, false, .none, none, none⟩

structure SendBufConfig where
  soSndbuf : Option UInt32
  deriving DecidableEq

/-- `SendBufConfig::default()`. -/
def SendBufConfig.default : SendBufConfig := ⟨none⟩

/-! ## What applying it comes to -/

/-- One `tracing::warn!`, with its fields. -/
inductive Warning
  | grantedLess (text : String) (requested : UInt32) (effective : Nat)
  | busyPoll (requested : UInt32) (error : IoError)
  | rxqOvfl (error : IoError)
  | timestamping (mode : TimestampMode)
  deriving DecidableEq

/-- The message it logs. -/
def Warning.text : Warning → String
  | .grantedLess text _ _ => text
  | .busyPoll _ _ => "SO_BUSY_POLL setsockopt failed"
  | .rxqOvfl _ => "SO_RXQ_OVFL setsockopt failed"
  | .timestamping _ => "timestamping requested but recvmsg ancillary path not yet wired"

/-- The warnings logged and the result returned. -/
structure Applied where
  warnings : List Warning
  result : Except TransportError Unit
  deriving DecidableEq

namespace Applied

def done : Applied := ⟨[], .ok ()⟩

def warn (warning : Warning) : Applied := ⟨[warning], .ok ()⟩

/-- `answer.map_err(TransportError::Io)?`. -/
def io : Except IoError Unit → Applied
  | .ok () => done
  | .error e => ⟨[], .error (.io e)⟩

/-- `first?` and then `rest`. -/
def andThen (first rest : Applied) : Applied :=
  match first.result with
  | .ok () => ⟨first.warnings ++ rest.warnings, rest.result⟩
  | .error _ => first

end Applied

/-- What the kernel answers to the options of one socket. The size read back is that of
the buffer after it was set to the one given. -/
structure Sock where
  setReuseAddress : Except IoError Unit
  setReusePort : Except IoError Unit
  setRecvBufferSize : Nat → Except IoError Unit
  recvBufferSize : Nat → Except IoError Nat
  setSendBufferSize : Nat → Except IoError Unit
  sendBufferSize : Nat → Except IoError Nat
  setBusyPoll : Except IoError Unit
  setRxqOvfl : Except IoError Unit

/-- One buffer: set it, read it back, compare. -/
def applyBufferSize (text : String) (set : Nat → Except IoError Unit)
    (get : Nat → Except IoError Nat) : Option UInt32 → Applied
  | none => .done
  | some req =>
    (Applied.io (set req.toNat)).andThen <|
      match get req.toNat with
      | .error e => ⟨[], .error (.io e)⟩
      | .ok effective =>
        if effective < req.toNat then .warn (.grantedLess text req effective) else .done

/-- The warnings of a function about its two buffers. -/
structure Texts where
  rcvbuf : String
  sndbuf : String

/-- `SO_RCVBUF`, then `SO_SNDBUF`. -/
def applyBufferSizes (texts : Texts) (sock : Sock) (rx : RecvBufConfig) (tx : SendBufConfig) :
    Applied :=
  (applyBufferSize texts.rcvbuf sock.setRecvBufferSize sock.recvBufferSize rx.soRcvbuf).andThen
    (applyBufferSize texts.sndbuf sock.setSendBufferSize sock.sendBufferSize tx.soSndbuf)

/-- `SO_REUSEADDR` and `SO_REUSEPORT`. -/
def applyReuse (sock : Sock) (bind : BindConfig) : Applied :=
  (if bind.reuseAddr then Applied.io sock.setReuseAddress else .done).andThen
    (if bind.reusePort then Applied.io sock.setReusePort else .done)

/-! ## The functions -/

namespace Tokio

/-- `apply_busy_poll`, on Linux. -/
def applyBusyPoll (sock : Sock) (rx : RecvBufConfig) : Applied :=
  match rx.soBusyPollUs with
  | none => .done
  | some us =>
    match sock.setBusyPoll with
    | .ok () => .done
    | .error e => .warn (.busyPoll us e)

/-- `apply_rxq_ovfl`, on Linux. -/
def applyRxqOvfl (sock : Sock) (rx : RecvBufConfig) : Applied :=
  if rx.soRxqOvfl then
    match sock.setRxqOvfl with
    | .ok () => .done
    | .error e => .warn (.rxqOvfl e)
  else .done

/-- `apply_timestamping`. -/
def applyTimestamping (rx : RecvBufConfig) : Applied :=
  match rx.soTimestamping with
  | .none => .done
  | .kernelSw | .hardwareRx => .warn (.timestamping rx.soTimestamping)

def udpTexts : Texts where
  rcvbuf := "kernel granted less SO_RCVBUF than requested"
  sndbuf := "kernel granted less SO_SNDBUF than requested"

def applySocketOpts (sock : Sock) (bind : BindConfig) (rx : RecvBufConfig) (tx : SendBufConfig) :
    Applied :=
  (applyReuse sock bind).andThen <|
    (applyBufferSizes udpTexts sock rx tx).andThen <|
      (applyBusyPoll sock rx).andThen <|
        (applyRxqOvfl sock rx).andThen (applyTimestamping rx)

def tcpTexts : Texts where
  rcvbuf := "kernel granted less SO_RCVBUF than requested on TCP"
  sndbuf := "kernel granted less SO_SNDBUF than requested on TCP"

def applyTcpSocketOpts (sock : Sock) (rx : RecvBufConfig) (tx : SendBufConfig) : Applied :=
  applyBufferSizes tcpTexts sock rx tx

end Tokio

namespace Mio

def udpTexts : Texts where
  rcvbuf := "kernel granted less SO_RCVBUF than requested on UDP"
  sndbuf := "kernel granted less SO_SNDBUF than requested on UDP"

/-- No busy poll, no overflow count and no timestamps here. -/
def applySocketOpts (sock : Sock) (bind : BindConfig) (rx : RecvBufConfig) (tx : SendBufConfig) :
    Applied :=
  (applyReuse sock bind).andThen (applyBufferSizes udpTexts sock rx tx)

def tcpTexts : Texts where
  rcvbuf := "kernel granted less SO_RCVBUF than requested on TCP"
  sndbuf := "kernel granted less SO_SNDBUF than requested on TCP"

def applyTcpSocketOpts (sock : Sock) (rx : RecvBufConfig) (tx : SendBufConfig) : Applied :=
  applyBufferSizes tcpTexts sock rx tx

end Mio

/-- The four functions. -/
inductive Site
  | tokioUdp
  | mioUdp
  | tokioTcp
  | mioTcp
  deriving DecidableEq, Repr

def Site.apply : Site → Sock → BindConfig → RecvBufConfig → SendBufConfig → Applied
  | .tokioUdp, sock, bind, rx, tx => Tokio.applySocketOpts sock bind rx tx
  | .mioUdp, sock, bind, rx, tx => Mio.applySocketOpts sock bind rx tx
  | .tokioTcp, sock, _, rx, tx => Tokio.applyTcpSocketOpts sock rx tx
  | .mioTcp, sock, _, rx, tx => Mio.applyTcpSocketOpts sock rx tx

def Site.texts : Site → Texts
  | .tokioUdp => Tokio.udpTexts
  | .mioUdp => Mio.udpTexts
  | .tokioTcp => Tokio.tcpTexts
  | .mioTcp => Mio.tcpTexts

/-! ## Linux -/

/-- What a buffer set to `size` is granted under a ceiling. -/
def granted (ceiling size : Nat) : Nat := min size ceiling

/-- Setting a buffer grants what the ceiling allows, and reading it back doubles that. -/
structure Sock.Linux (sock : Sock) (rmemMax wmemMax : Nat) : Prop where
  setRecv : ∀ size, sock.setRecvBufferSize size = .ok ()
  recv : ∀ size, sock.recvBufferSize size = .ok (2 * granted rmemMax size)
  setSend : ∀ size, sock.setSendBufferSize size = .ok ()
  send : ∀ size, sock.sendBufferSize size = .ok (2 * granted wmemMax size)

/-- A buffer of this request is warned of. -/
def Applied.Warns (applied : Applied) (text : String) (req : UInt32) : Prop :=
  ∃ effective, .grantedLess text req effective ∈ applied.warnings

namespace Applied

variable {first rest : Applied} {text : String} {req : UInt32}

/-- What is applied to the end logs the warnings of all its parts. -/
theorem andThen_ok (ok : (first.andThen rest).result = .ok ()) :
    first.result = .ok () ∧ rest.result = .ok () ∧
      (first.andThen rest).warnings = first.warnings ++ rest.warnings := by
  unfold andThen at ok ⊢
  cases result : first.result with
  | ok _ =>
      rw [result] at ok
      exact ⟨rfl, ok, rfl⟩
  | error e =>
      rw [result] at ok
      dsimp only at ok
      rw [result] at ok
      cases ok

theorem warns_andThen (ok : (first.andThen rest).result = .ok ()) :
    (first.andThen rest).Warns text req ↔ first.Warns text req ∨ rest.Warns text req := by
  obtain ⟨_, _, warnings⟩ := andThen_ok ok
  simp only [Warns, warnings, List.mem_append, exists_or]

end Applied

section Linux

variable {sock : Sock} {rmemMax wmemMax : Nat} {bind : BindConfig} {rx : RecvBufConfig}
  {tx : SendBufConfig} {text : String} {req : UInt32}

/-- The step warns of its own request under its own text, if what it reads is short. -/
theorem warns_applyBufferSize {own : String} {set : Nat → Except IoError Unit}
    {get : Nat → Except IoError Nat} {effective : Nat → Nat} {requested : Option UInt32}
    (accepts : ∀ size, set size = .ok ()) (reads : ∀ size, get size = .ok (effective size)) :
    (applyBufferSize own set get requested).Warns text req ↔
      text = own ∧ requested = some req ∧ effective req.toNat < req.toNat := by
  cases requested with
  | none => simp [applyBufferSize, Applied.Warns, Applied.done]
  | some asked =>
      simp only [applyBufferSize, accepts, reads, Applied.io, Applied.andThen, Applied.done,
        List.nil_append, Applied.Warns, Option.some.injEq]
      by_cases short : effective asked.toNat < asked.toNat
      · simp only [short, if_true, Applied.warn, List.mem_singleton, Warning.grantedLess.injEq]
        constructor
        · rintro ⟨read, rfl, rfl, rfl⟩
          exact ⟨rfl, rfl, short⟩
        · rintro ⟨rfl, rfl, _⟩
          exact ⟨_, rfl, rfl, rfl⟩
      · simp only [short, if_false, List.not_mem_nil, exists_false, false_iff]
        rintro ⟨_, rfl, other⟩
        exact short other

theorem not_warns_io (answer : Except IoError Unit) : ¬ (Applied.io answer).Warns text req := by
  cases answer <;> simp [Applied.io, Applied.Warns, Applied.done]

theorem not_warns_done : ¬ Applied.done.Warns text req := by
  simp [Applied.done, Applied.Warns]

theorem not_warns_applyReuse (ok : (applyReuse sock bind).result = .ok ()) :
    ¬ (applyReuse sock bind).Warns text req := by
  rw [applyReuse, Applied.warns_andThen ok]
  rintro (addr | port)
  · split at addr
    · exact not_warns_io _ addr
    · exact not_warns_done addr
  · split at port
    · exact not_warns_io _ port
    · exact not_warns_done port

theorem not_warns_extras (ok : ((Tokio.applyBusyPoll sock rx).andThen
      ((Tokio.applyRxqOvfl sock rx).andThen (Tokio.applyTimestamping rx))).result = .ok ()) :
    ¬ ((Tokio.applyBusyPoll sock rx).andThen
      ((Tokio.applyRxqOvfl sock rx).andThen (Tokio.applyTimestamping rx))).Warns text req := by
  obtain ⟨_, later, _⟩ := Applied.andThen_ok ok
  rw [Applied.warns_andThen ok, Applied.warns_andThen later]
  rintro (⟨effective, warned⟩ | ⟨effective, warned⟩ | ⟨effective, warned⟩)
  · unfold Tokio.applyBusyPoll at warned
    split at warned
    · cases warned
    · split at warned
      · cases warned
      · simp [Applied.warn] at warned
  · unfold Tokio.applyRxqOvfl at warned
    split at warned
    · split at warned
      · cases warned
      · simp [Applied.warn] at warned
    · cases warned
  · unfold Tokio.applyTimestamping at warned
    split at warned
    · cases warned
    · simp [Applied.warn] at warned
    · simp [Applied.warn] at warned

/-- The two buffers have texts of their own. -/
theorem Site.texts_apart (site : Site) : site.texts.rcvbuf ≠ site.texts.sndbuf := by
  cases site <;> decide

/-- Whatever else a function applies, it warns of a buffer only in the step for buffers. -/
theorem Site.warns_iff (site : Site) (ok : (site.apply sock bind rx tx).result = .ok ()) :
    (applyBufferSizes site.texts sock rx tx).result = .ok () ∧
      ∀ text req, (site.apply sock bind rx tx).Warns text req ↔
        (applyBufferSizes site.texts sock rx tx).Warns text req := by
  cases site with
  | tokioUdp =>
      obtain ⟨reuse, later, _⟩ := Applied.andThen_ok ok
      obtain ⟨sizes, extras, _⟩ := Applied.andThen_ok later
      refine ⟨sizes, ?_⟩
      intro text req
      show ((applyReuse sock bind).andThen _).Warns text req ↔ _
      rw [Applied.warns_andThen ok, Applied.warns_andThen later,
        or_iff_right (not_warns_applyReuse reuse), or_iff_left (not_warns_extras extras)]
      rfl
  | mioUdp =>
      obtain ⟨reuse, sizes, _⟩ := Applied.andThen_ok ok
      refine ⟨sizes, ?_⟩
      intro text req
      show ((applyReuse sock bind).andThen _).Warns text req ↔ _
      rw [Applied.warns_andThen ok, or_iff_right (not_warns_applyReuse reuse)]
      rfl
  | tokioTcp | mioTcp => exact ⟨ok, fun _ _ => Iff.rfl⟩

/-- A buffer is warned of when twice what it was granted is less than what was asked for. -/
theorem Site.warns_granted (site : Site) (linux : sock.Linux rmemMax wmemMax)
    (ok : (site.apply sock bind rx tx).result = .ok ()) :
    ((site.apply sock bind rx tx).Warns site.texts.rcvbuf req ↔
      rx.soRcvbuf = some req ∧ 2 * granted rmemMax req.toNat < req.toNat) ∧
    ((site.apply sock bind rx tx).Warns site.texts.sndbuf req ↔
      tx.soSndbuf = some req ∧ 2 * granted wmemMax req.toNat < req.toNat) := by
  have apart := site.texts_apart
  obtain ⟨sizes, same⟩ := site.warns_iff ok
  have warns : ∀ text, (site.apply sock bind rx tx).Warns text req ↔
      (text = site.texts.rcvbuf ∧ rx.soRcvbuf = some req ∧
        2 * granted rmemMax req.toNat < req.toNat) ∨
      (text = site.texts.sndbuf ∧ tx.soSndbuf = some req ∧
        2 * granted wmemMax req.toNat < req.toNat) := by
    intro text
    rw [same, applyBufferSizes, Applied.warns_andThen sizes,
      warns_applyBufferSize linux.setRecv linux.recv,
      warns_applyBufferSize linux.setSend linux.send]
  constructor
  · rw [warns]
    simp [apart]
  · rw [warns]
    simp [apart.symm]

end Linux

/-! ## The shortfall -/

/-- The warning of a buffer and the shortfall go together. -/
def Reported (applied : Applied) (text : String) (requested : Option UInt32) (ceiling : Nat) :
    Prop :=
  ∀ req, requested = some req → (applied.Warns text req ↔ granted ceiling req.toNat < req.toNat)

/-- The request is not between the ceiling and twice the ceiling. -/
def OutsideBand (requested : Option UInt32) (ceiling : Nat) : Prop :=
  ∀ req, requested = some req → req.toNat ≤ ceiling ∨ 2 * ceiling < req.toNat

/-- **Buffers granted short.** On Linux each of the four functions, where it gets to the
end, warns of a buffer exactly when the kernel granted less than was asked for, if and only
if the request does not lie above the ceiling and up to twice the ceiling. -/
theorem shortfall_reported_iff (site : Site) (sock : Sock) (bind : BindConfig)
    (rx : RecvBufConfig) (tx : SendBufConfig) {rmemMax wmemMax : Nat}
    (linux : sock.Linux rmemMax wmemMax)
    (ok : (site.apply sock bind rx tx).result = .ok ()) :
    (Reported (site.apply sock bind rx tx) site.texts.rcvbuf rx.soRcvbuf rmemMax ↔
      OutsideBand rx.soRcvbuf rmemMax) ∧
    (Reported (site.apply sock bind rx tx) site.texts.sndbuf tx.soSndbuf wmemMax ↔
      OutsideBand tx.soSndbuf wmemMax) := by
  have units : ∀ ceiling size, (2 * granted ceiling size < size ↔ granted ceiling size < size) ↔
      size ≤ ceiling ∨ 2 * ceiling < size := by
    intro ceiling size
    unfold granted
    omega
  constructor
  · refine forall₂_congr fun req asked => ?_
    rw [(site.warns_granted linux ok).1, and_iff_right asked, units]
  · refine forall₂_congr fun req asked => ?_
    rw [(site.warns_granted linux ok).2, and_iff_right asked, units]

/-- A socket of a Linux machine with these two ceilings. -/
def linuxSock (rmemMax wmemMax : Nat) : Sock where
  setReuseAddress := .ok ()
  setReusePort := .ok ()
  setRecvBufferSize _ := .ok ()
  recvBufferSize size := .ok (2 * granted rmemMax size)
  setSendBufferSize _ := .ok ()
  sendBufferSize size := .ok (2 * granted wmemMax size)
  setBusyPoll := .ok ()
  setRxqOvfl := .ok ()

theorem linuxSock_linux (rmemMax wmemMax : Nat) :
    (linuxSock rmemMax wmemMax).Linux rmemMax wmemMax :=
  ⟨fun _ => rfl, fun _ => rfl, fun _ => rfl, fun _ => rfl⟩

/-- A receive buffer of so many bytes, asked for where the ceilings are the usual 212992. -/
def askFor (site : Site) (size : UInt32) : Applied :=
  site.apply (linuxSock 212992 212992) (.new .unspecified)
    { RecvBufConfig.default with soRcvbuf := some size } .default

theorem shortfall_reported_iff_tenfold :
    (askFor .tokioUdp 2129920).Warns "kernel granted less SO_RCVBUF than requested" 2129920 := by
  have reported := (shortfall_reported_iff .tokioUdp (linuxSock 212992 212992)
    (.new .unspecified) { RecvBufConfig.default with soRcvbuf := some 2129920 } .default
    (linuxSock_linux 212992 212992) rfl).1.mpr (by rintro _ ⟨⟩; exact .inr (by decide))
  exact (reported 2129920 rfl).mpr (by decide)

/-- Asked for 300000 bytes, Linux grants 212992 and reads back 425984; nobody warns. -/
theorem shortfall_unreported :
    granted 212992 300000 < 300000 ∧
    (askFor .tokioUdp 300000).warnings = [] ∧ (askFor .mioUdp 300000).warnings = [] ∧
    (askFor .tokioTcp 300000).warnings = [] ∧ (askFor .mioTcp 300000).warnings = [] := by
  decide

end Transports.Sockets
