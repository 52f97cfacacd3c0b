/-
# The transmit machines of the firmware

`uart_tx_state.c` and `cdc_tx_state.c`.  Both copy a payload into a buffer that keeps what was
there before, and both refine the sender that remembers nothing; the UART also waits for its
transmitter to drain, and the USB port counts its timeout from the last progress.
-/
import DutchMate.Transmission

/-! ## The UART -/

def uartTxMaxBytes : ℕ := 1024

structure UartTx where
  bytes : List UInt8
  length : ℕ := 0
  queued : ℕ := 0
  startedUs : UInt64 := 0
  timeoutUs : UInt64 := 0
  state : TxResult := .idle
  deriving DecidableEq, Repr

namespace UartTx

def init : UartTx := { bytes := List.replicate uartTxMaxBytes 0 }

variable (tx : UartTx)

def finish (result : TxResult) : UartTx × List PortCall := ({ tx with state := result }, [.stop])

def start (data : Option (List UInt8)) (nowUs timeoutUs : UInt64) : UartTx × TxResult :=
  match data with
  | none => (tx, .invalidArgument)
  | some data =>
    if data.length = 0 ∨ uartTxMaxBytes < data.length ∨ timeoutUs = 0 then (tx, .invalidArgument)
    else if tx.state ≠ .idle then (tx, .busy)
    else
      ({ bytes := data ++ tx.bytes.drop data.length
         length := data.length
         queued := 0
         startedUs := nowUs
         timeoutUs := timeoutUs
         state := .pending }, .pending)

/-- The end of the interrupt, when everything is queued. -/
def checkComplete (complete : ℤ) : UartTx × List PortCall :=
  if tx.queued = tx.length then
    if complete < 0 then
      let (tx, calls) := tx.finish .hardwareFault
      (tx, .isComplete complete :: calls)
    else if 0 < complete then
      let (tx, calls) := tx.finish .completed
      (tx, .isComplete complete :: calls)
    else (tx, [.isComplete complete])
  else (tx, [])

/-- The port answers a write with `written` and the question for its end with `complete`. -/
def onInterrupt (written complete : ℤ) : UartTx × List PortCall :=
  if tx.state ≠ .pending then (tx, [.stop])
  else if tx.queued < tx.length then
    let remaining := tx.length - tx.queued
    let offered := (tx.bytes.drop tx.queued).take remaining
    if written ≤ 0 ∨ remaining < written then
      let (tx, calls) := tx.finish .hardwareFault
      (tx, .write offered written :: calls)
    else
      let (tx, calls) := { tx with queued := tx.queued + written.toNat }.checkComplete complete
      (tx, .write offered written :: calls)
  else tx.checkComplete complete

def driverFault : UartTx × List PortCall :=
  if tx.state = .pending then tx.finish .hardwareFault else (tx, [])

def cancel : UartTx × List PortCall :=
  ({ tx with length := 0, queued := 0, state := .idle },
    if tx.state = .pending then [.stop] else [])

/-- The result, and what was accepted. -/
def poll (nowUs : UInt64) : UartTx × TxOutput :=
  let (tx, calls) :=
    if tx.state = .pending ∧ tx.timeoutUs ≤ nowUs - tx.startedUs then tx.finish .timeout
    else (tx, [])
  let output : TxOutput :=
    { calls := calls
      result := some tx.state
      bytesAccepted := if tx.state = .completed then tx.length else 0 }
  if tx.state.isTerminal then ({ tx with length := 0, queued := 0, state := .idle }, output)
  else (tx, output)

def step : TxOp → UartTx × TxOutput
  | .start data nowUs timeoutUs =>
    ((tx.start data nowUs timeoutUs).1, { result := some (tx.start data nowUs timeoutUs).2 })
  | .writable _ written complete =>
    ((tx.onInterrupt written complete).1, { calls := (tx.onInterrupt written complete).2 })
  | .driverFault => (tx.driverFault.1, { calls := tx.driverFault.2 })
  | .cancel => (tx.cancel.1, { calls := tx.cancel.2 })
  | .poll nowUs => tx.poll nowUs

end UartTx

/-- The UART asks for its transmitter to drain. -/
def uartTxKind : TxKind where
  maxBytes := uartTxMaxBytes
  drains := true
  renews := false

/-! ## The USB port -/

def cdcTxMaxFrameBytes : ℕ := 1536

structure CdcTx where
  frame : List UInt8
  length : ℕ := 0
  accepted : ℕ := 0
  lastProgressUs : UInt64 := 0
  timeoutUs : UInt64 := 0
  state : TxResult := .idle
  deriving DecidableEq, Repr

namespace CdcTx

def init : CdcTx := { frame := List.replicate cdcTxMaxFrameBytes 0 }

variable (tx : CdcTx)

def finish (result : TxResult) : CdcTx × List PortCall := ({ tx with state := result }, [.stop])

def start (frame : Option (List UInt8)) (nowUs timeoutUs : UInt64) : CdcTx × TxResult :=
  match frame with
  | none => (tx, .invalidArgument)
  | some frame =>
    if frame.length = 0 ∨ cdcTxMaxFrameBytes < frame.length ∨ timeoutUs = 0 then
      (tx, .invalidArgument)
    else if tx.state ≠ .idle then (tx, .busy)
    else
      ({ frame := frame ++ tx.frame.drop frame.length
         length := frame.length
         accepted := 0
         lastProgressUs := nowUs
         timeoutUs := timeoutUs
         state := .pending }, .pending)

def onWritable (nowUs : UInt64) (written : ℤ) : CdcTx × List PortCall :=
  if tx.state ≠ .pending then (tx, [.stop])
  else
    let remaining := tx.length - tx.accepted
    let offered := (tx.frame.drop tx.accepted).take remaining
    if written ≤ 0 ∨ remaining < written then
      let (tx, calls) := tx.finish .hardwareFault
      (tx, .write offered written :: calls)
    else
      let tx := { tx with accepted := tx.accepted + written.toNat, lastProgressUs := nowUs }
      if tx.accepted = tx.length then
        let (tx, calls) := tx.finish .completed
        (tx, .write offered written :: calls)
      else (tx, [.write offered written])

def driverFault : CdcTx × List PortCall :=
  if tx.state = .pending then tx.finish .hardwareFault else (tx, [])

def clear : CdcTx :=
  { tx with length := 0, accepted := 0, lastProgressUs := 0, timeoutUs := 0, state := .idle }

def cancel : CdcTx × List PortCall := (tx.clear, if tx.state = .pending then [.stop] else [])

def poll (nowUs : UInt64) : CdcTx × TxOutput :=
  let (tx, calls) :=
    if tx.state = .pending ∧ tx.timeoutUs ≤ nowUs - tx.lastProgressUs then tx.finish .timeout
    else (tx, [])
  let output : TxOutput := { calls := calls, result := some tx.state }
  if tx.state.isTerminal then (tx.clear, output) else (tx, output)

def step : TxOp → CdcTx × TxOutput
  | .start frame nowUs timeoutUs =>
    ((tx.start frame nowUs timeoutUs).1, { result := some (tx.start frame nowUs timeoutUs).2 })
  | .writable nowUs written _ =>
    ((tx.onWritable nowUs written).1, { calls := (tx.onWritable nowUs written).2 })
  | .driverFault => (tx.driverFault.1, { calls := tx.driverFault.2 })
  | .cancel => (tx.cancel.1, { calls := tx.cancel.2 })
  | .poll nowUs => tx.poll nowUs

end CdcTx

/-- The USB port renews its timeout with every progress. -/
def cdcTxKind : TxKind where
  maxBytes := cdcTxMaxFrameBytes
  drains := false
  renews := true

/-! ## Both refine the sender -/

theorem good_iff {offered : List UInt8} {remaining : ℕ} (h : offered.length = remaining)
    (written : ℤ) : Good offered written ↔ ¬(written ≤ 0 ∨ remaining < written) := by
  rw [Good, h]
  omega

namespace UartTx

/-- The sender that the machine is. -/
def Views (tx : UartTx) : Sender → Prop
  | .idle => tx.state = .idle
  | .pending payload sent sinceUs timeoutUs =>
    tx.state = .pending ∧ tx.bytes.take tx.length = payload ∧ payload.length = tx.length ∧
      tx.queued = sent ∧ sent ≤ payload.length ∧ tx.startedUs = sinceUs ∧ tx.timeoutUs = timeoutUs
  | .ended result length => tx.state = result ∧ result.isTerminal = true ∧ tx.length = length

variable {tx : UartTx} {sender : Sender}

/-- A machine that is not idle is in a transmission. -/
theorem Views.state_ne (h : tx.Views sender) (hsender : sender ≠ .idle) : tx.state ≠ .idle := by
  intro hidle
  cases sender with
  | idle => exact hsender rfl
  | pending payload sent sinceUs timeoutUs => exact absurd (h.1.symm.trans hidle) nofun
  | ended result length =>
    have hterminal := h.2.1
    rw [← h.1, hidle] at hterminal
    cases hterminal

theorem Views.not_pending {result : TxResult} {length : ℕ} (h : tx.Views (.ended result length)) :
    tx.state ≠ .pending := by
  intro hpending
  have hterminal := h.2.1
  rw [← h.1, hpending] at hterminal
  cases hterminal

theorem Views.start (h : tx.Views sender) (data : Option (List UInt8)) (nowUs timeoutUs : UInt64) :
    (tx.start data nowUs timeoutUs).1.Views
        (sender.step uartTxKind (.start data nowUs timeoutUs)).1 ∧
      { result := some (tx.start data nowUs timeoutUs).2 }
        = (sender.step uartTxKind (.start data nowUs timeoutUs)).2 := by
  cases data with
  | none => exact ⟨h, rfl⟩
  | some data =>
    by_cases hinvalid : data.length = 0 ∨ uartTxMaxBytes < data.length ∨ timeoutUs = 0
    · have hsender : sender.step uartTxKind (.start (some data) nowUs timeoutUs)
          = (sender, { result := some .invalidArgument }) := by
        cases sender <;> exact if_pos hinvalid
      rw [hsender, UartTx.start, if_pos hinvalid]
      exact ⟨h, rfl⟩
    by_cases hidle : sender = .idle
    · subst hidle
      have hsender : Sender.step uartTxKind .idle (.start (some data) nowUs timeoutUs)
          = (.pending data 0 nowUs timeoutUs, { result := some .pending }) := if_neg hinvalid
      have hstate : tx.state = .idle := h
      rw [hsender, UartTx.start, if_neg hinvalid, if_neg (not_not.mpr hstate)]
      exact ⟨⟨rfl, List.take_left, rfl, rfl, Nat.zero_le _, rfl, rfl⟩, rfl⟩
    · have hsender : sender.step uartTxKind (.start (some data) nowUs timeoutUs)
          = (sender, { result := some .busy }) := by
        cases sender with
        | idle => exact absurd rfl hidle
        | pending payload sent sinceUs timeout => exact if_neg hinvalid
        | ended result length => exact if_neg hinvalid
      rw [hsender, UartTx.start, if_neg hinvalid, if_pos (h.state_ne hidle)]
      exact ⟨h, rfl⟩

theorem Views.checkComplete {payload : List UInt8} {sent : ℕ} {sinceUs timeoutUs : UInt64}
    (h : tx.Views (.pending payload sent sinceUs timeoutUs)) (hsent : sent = payload.length)
    (complete : ℤ) :
    (tx.checkComplete complete).1.Views
        (Sender.settle uartTxKind payload sinceUs timeoutUs complete).1 ∧
      (tx.checkComplete complete).2
        = (Sender.settle uartTxKind payload sinceUs timeoutUs complete).2 := by
  obtain ⟨hstate, hbytes, hlength, hqueued, hle, hsince, htimeout⟩ := h
  have hdrains : uartTxKind.drains = true := rfl
  rw [UartTx.checkComplete, if_pos (by omega), Sender.settle, if_pos hdrains]
  by_cases hfault : complete < 0
  · rw [if_pos hfault, if_pos hfault]
    exact ⟨⟨rfl, rfl, hlength.symm⟩, rfl⟩
  rw [if_neg hfault, if_neg hfault]
  by_cases hdrained : 0 < complete
  · rw [if_pos hdrained, if_pos hdrained]
    exact ⟨⟨rfl, rfl, hlength.symm⟩, rfl⟩
  · rw [if_neg hdrained, if_neg hdrained]
    exact ⟨⟨hstate, hbytes, hlength, hqueued.trans hsent, Nat.le_refl _, hsince, htimeout⟩, rfl⟩

theorem Views.onInterrupt (h : tx.Views sender) (nowUs : UInt64) (written complete : ℤ) :
    (tx.onInterrupt written complete).1.Views
        (sender.writable uartTxKind nowUs written complete).1 ∧
      (tx.onInterrupt written complete).2
        = (sender.writable uartTxKind nowUs written complete).2 := by
  cases sender with
  | idle =>
    have hstate : tx.state = .idle := h
    rw [UartTx.onInterrupt, if_pos (by rw [hstate]; nofun)]
    exact ⟨h, rfl⟩
  | ended result length =>
    rw [UartTx.onInterrupt, if_pos h.not_pending]
    exact ⟨h, rfl⟩
  | pending payload sent sinceUs timeoutUs =>
    have hviews := h
    obtain ⟨hstate, hbytes, hlength, hqueued, hle, hsince, htimeout⟩ := h
    rw [UartTx.onInterrupt, if_neg (not_not.mpr hstate), Sender.writable, hqueued]
    by_cases hrest : sent < payload.length
    swap
    · rw [if_neg (by omega), if_neg hrest]
      exact hviews.checkComplete (Nat.le_antisymm hle (Nat.not_lt.mp hrest)) complete
    have hoffered : (tx.bytes.drop sent).take (tx.length - sent) = payload.drop sent := by
      rw [← List.drop_take, hbytes]
    have hremaining : (payload.drop sent).length = tx.length - sent := by
      rw [List.length_drop, hlength]
    have hgood := good_iff hremaining written
    rw [if_pos (by omega), if_pos hrest, Sender.offer]
    dsimp only
    rw [hoffered]
    by_cases hbad : written ≤ 0 ∨ ((tx.length - sent : ℕ) : ℤ) < written
    · rw [if_pos hbad, if_pos fun hg => hgood.mp hg hbad]
      exact ⟨⟨rfl, rfl, hlength.symm⟩, rfl⟩
    rw [if_neg hbad, if_neg (not_not.mpr (hgood.mpr hbad))]
    have hmore : UartTx.Views { tx with queued := sent + written.toNat }
        (.pending payload (sent + written.toNat) sinceUs timeoutUs) :=
      ⟨hstate, hbytes, hlength, rfl, by omega, hsince, htimeout⟩
    have hrenews : (if uartTxKind.renews = true then nowUs else sinceUs) = sinceUs := rfl
    rw [hrenews]
    by_cases hall : sent + written.toNat = payload.length
    · obtain ⟨hnext, hcalls⟩ := hmore.checkComplete hall complete
      rw [if_pos hall]
      exact ⟨hnext, congrArg (PortCall.write (payload.drop sent) written :: ·) hcalls⟩
    · rw [if_neg hall, UartTx.checkComplete, if_neg (by
        show ¬sent + written.toNat = tx.length
        omega)]
      exact ⟨hmore, rfl⟩

theorem Views.driverFault (h : tx.Views sender) :
    tx.driverFault.1.Views (sender.step uartTxKind .driverFault).1 ∧
      { calls := tx.driverFault.2 } = (sender.step uartTxKind .driverFault).2 := by
  rw [UartTx.driverFault]
  cases sender with
  | idle =>
    have hstate : tx.state = .idle := h
    rw [if_neg (by rw [hstate]; nofun)]
    exact ⟨h, rfl⟩
  | pending payload sent sinceUs timeoutUs =>
    rw [if_pos h.1]
    exact ⟨⟨rfl, rfl, h.2.2.1.symm⟩, rfl⟩
  | ended result length =>
    rw [if_neg h.not_pending]
    exact ⟨h, rfl⟩

theorem Views.cancel (h : tx.Views sender) :
    tx.cancel.1.Views (sender.step uartTxKind .cancel).1 ∧
      { calls := tx.cancel.2 } = (sender.step uartTxKind .cancel).2 := by
  rw [UartTx.cancel]
  cases sender with
  | idle =>
    have hstate : tx.state = .idle := h
    rw [if_neg (by rw [hstate]; nofun)]
    exact ⟨rfl, rfl⟩
  | pending payload sent sinceUs timeoutUs =>
    rw [if_pos h.1]
    exact ⟨rfl, rfl⟩
  | ended result length =>
    rw [if_neg h.not_pending]
    exact ⟨rfl, rfl⟩

theorem Views.poll (h : tx.Views sender) (nowUs : UInt64) :
    (tx.poll nowUs).1.Views (sender.poll uartTxKind nowUs).1 ∧
      (tx.poll nowUs).2 = (sender.poll uartTxKind nowUs).2 := by
  rw [UartTx.poll]
  cases sender with
  | idle =>
    have hstate : tx.state = .idle := h
    rw [if_neg fun hp => TxResult.noConfusion (hstate.symm.trans hp.1)]
    dsimp only
    rw [hstate]
    exact ⟨hstate, rfl⟩
  | pending payload sent sinceUs timeoutUs =>
    have hviews := h
    obtain ⟨hstate, hbytes, hlength, hqueued, hle, rfl, rfl⟩ := h
    rw [Sender.poll]
    by_cases hlate : tx.timeoutUs ≤ nowUs - tx.startedUs
    · rw [if_pos ⟨hstate, hlate⟩, if_pos hlate]
      exact ⟨rfl, rfl⟩
    · rw [if_neg fun hp => hlate hp.2, if_neg hlate]
      dsimp only
      rw [hstate]
      exact ⟨hviews, rfl⟩
  | ended result length =>
    obtain ⟨hstate, hterminal, hlength⟩ := h
    rw [if_neg fun hp => absurd hterminal (by rw [← hstate, hp.1]; exact Bool.false_ne_true)]
    dsimp only
    rw [hstate, hterminal, hlength, if_pos rfl, Sender.poll]
    refine ⟨rfl, ?_⟩
    have hdrains : uartTxKind.drains = true := rfl
    simp [hdrains]

theorem refines : TxRefines uartTxKind step Views where
  next h op := by
    cases op with
    | start data nowUs timeoutUs => exact (h.start data nowUs timeoutUs).1
    | writable nowUs written complete => exact (h.onInterrupt nowUs written complete).1
    | driverFault => exact h.driverFault.1
    | cancel => exact h.cancel.1
    | poll nowUs => exact (h.poll nowUs).1
  output h op := by
    cases op with
    | start data nowUs timeoutUs => exact (h.start data nowUs timeoutUs).2
    | writable nowUs written complete =>
      exact congrArg (TxOutput.mk · none 0) (h.onInterrupt nowUs written complete).2
    | driverFault => exact h.driverFault.2
    | cancel => exact h.cancel.2
    | poll nowUs => exact (h.poll nowUs).2

end UartTx

namespace CdcTx

/-- The sender that the machine is; what is under way is never complete. -/
def Views (tx : CdcTx) : Sender → Prop
  | .idle => tx.state = .idle
  | .pending payload sent sinceUs timeoutUs =>
    tx.state = .pending ∧ tx.frame.take tx.length = payload ∧ payload.length = tx.length ∧
      tx.accepted = sent ∧ sent < payload.length ∧ tx.lastProgressUs = sinceUs ∧
      tx.timeoutUs = timeoutUs
  | .ended result length => tx.state = result ∧ result.isTerminal = true ∧ tx.length = length

variable {tx : CdcTx} {sender : Sender}

theorem Views.state_ne (h : tx.Views sender) (hsender : sender ≠ .idle) : tx.state ≠ .idle := by
  intro hidle
  cases sender with
  | idle => exact hsender rfl
  | pending payload sent sinceUs timeoutUs => exact absurd (h.1.symm.trans hidle) nofun
  | ended result length =>
    have hterminal := h.2.1
    rw [← h.1, hidle] at hterminal
    cases hterminal

theorem Views.not_pending {result : TxResult} {length : ℕ} (h : tx.Views (.ended result length)) :
    tx.state ≠ .pending := by
  intro hpending
  have hterminal := h.2.1
  rw [← h.1, hpending] at hterminal
  cases hterminal

theorem Views.start (h : tx.Views sender) (frame : Option (List UInt8)) (nowUs timeoutUs : UInt64) :
    (tx.start frame nowUs timeoutUs).1.Views
        (sender.step cdcTxKind (.start frame nowUs timeoutUs)).1 ∧
      { result := some (tx.start frame nowUs timeoutUs).2 }
        = (sender.step cdcTxKind (.start frame nowUs timeoutUs)).2 := by
  cases frame with
  | none => exact ⟨h, rfl⟩
  | some frame =>
    by_cases hinvalid : frame.length = 0 ∨ cdcTxMaxFrameBytes < frame.length ∨ timeoutUs = 0
    · have hsender : sender.step cdcTxKind (.start (some frame) nowUs timeoutUs)
          = (sender, { result := some .invalidArgument }) := by
        cases sender <;> exact if_pos hinvalid
      rw [hsender, CdcTx.start, if_pos hinvalid]
      exact ⟨h, rfl⟩
    by_cases hidle : sender = .idle
    · subst hidle
      have hsender : Sender.step cdcTxKind .idle (.start (some frame) nowUs timeoutUs)
          = (.pending frame 0 nowUs timeoutUs, { result := some .pending }) := if_neg hinvalid
      have hstate : tx.state = .idle := h
      have hpos : 0 < frame.length := Nat.pos_of_ne_zero fun hzero => hinvalid (.inl hzero)
      rw [hsender, CdcTx.start, if_neg hinvalid, if_neg (not_not.mpr hstate)]
      exact ⟨⟨rfl, List.take_left, rfl, rfl, hpos, rfl, rfl⟩, rfl⟩
    · have hsender : sender.step cdcTxKind (.start (some frame) nowUs timeoutUs)
          = (sender, { result := some .busy }) := by
        cases sender with
        | idle => exact absurd rfl hidle
        | pending payload sent sinceUs timeout => exact if_neg hinvalid
        | ended result length => exact if_neg hinvalid
      rw [hsender, CdcTx.start, if_neg hinvalid, if_pos (h.state_ne hidle)]
      exact ⟨h, rfl⟩

theorem Views.onWritable (h : tx.Views sender) (nowUs : UInt64) (written complete : ℤ) :
    (tx.onWritable nowUs written).1.Views (sender.writable cdcTxKind nowUs written complete).1 ∧
      (tx.onWritable nowUs written).2
        = (sender.writable cdcTxKind nowUs written complete).2 := by
  cases sender with
  | idle =>
    have hstate : tx.state = .idle := h
    rw [CdcTx.onWritable, if_pos (by rw [hstate]; nofun)]
    exact ⟨h, rfl⟩
  | ended result length =>
    rw [CdcTx.onWritable, if_pos h.not_pending]
    exact ⟨h, rfl⟩
  | pending payload sent sinceUs timeoutUs =>
    obtain ⟨hstate, hframe, hlength, haccepted, hrest, hsince, htimeout⟩ := h
    have hoffered : (tx.frame.drop sent).take (tx.length - sent) = payload.drop sent := by
      rw [← List.drop_take, hframe]
    have hremaining : (payload.drop sent).length = tx.length - sent := by
      rw [List.length_drop, hlength]
    have hgood := good_iff hremaining written
    have hdrains : ¬cdcTxKind.drains = true := nofun
    rw [CdcTx.onWritable, if_neg (not_not.mpr hstate), Sender.writable, haccepted, if_pos hrest,
      Sender.offer]
    dsimp only
    rw [hoffered]
    by_cases hbad : written ≤ 0 ∨ ((tx.length - sent : ℕ) : ℤ) < written
    · rw [if_pos hbad, if_pos fun hg => hgood.mp hg hbad]
      exact ⟨⟨rfl, rfl, hlength.symm⟩, rfl⟩
    rw [if_neg hbad, if_neg (not_not.mpr (hgood.mpr hbad))]
    by_cases hall : sent + written.toNat = payload.length
    · rw [if_pos (by omega), if_pos hall, Sender.settle, if_neg hdrains]
      exact ⟨⟨rfl, rfl, hlength.symm⟩, rfl⟩
    · rw [if_neg (by omega), if_neg hall]
      exact ⟨⟨hstate, hframe, hlength, rfl, by omega, rfl, htimeout⟩, rfl⟩

theorem Views.driverFault (h : tx.Views sender) :
    tx.driverFault.1.Views (sender.step cdcTxKind .driverFault).1 ∧
      { calls := tx.driverFault.2 } = (sender.step cdcTxKind .driverFault).2 := by
  rw [CdcTx.driverFault]
  cases sender with
  | idle =>
    have hstate : tx.state = .idle := h
    rw [if_neg (by rw [hstate]; nofun)]
    exact ⟨h, rfl⟩
  | pending payload sent sinceUs timeoutUs =>
    rw [if_pos h.1]
    exact ⟨⟨rfl, rfl, h.2.2.1.symm⟩, rfl⟩
  | ended result length =>
    rw [if_neg h.not_pending]
    exact ⟨h, rfl⟩

theorem Views.cancel (h : tx.Views sender) :
    tx.cancel.1.Views (sender.step cdcTxKind .cancel).1 ∧
      { calls := tx.cancel.2 } = (sender.step cdcTxKind .cancel).2 := by
  rw [CdcTx.cancel]
  cases sender with
  | idle =>
    have hstate : tx.state = .idle := h
    rw [if_neg (by rw [hstate]; nofun)]
    exact ⟨rfl, rfl⟩
  | pending payload sent sinceUs timeoutUs =>
    rw [if_pos h.1]
    exact ⟨rfl, rfl⟩
  | ended result length =>
    rw [if_neg h.not_pending]
    exact ⟨rfl, rfl⟩

theorem Views.poll (h : tx.Views sender) (nowUs : UInt64) :
    (tx.poll nowUs).1.Views (sender.poll cdcTxKind nowUs).1 ∧
      (tx.poll nowUs).2 = (sender.poll cdcTxKind nowUs).2 := by
  rw [CdcTx.poll]
  cases sender with
  | idle =>
    have hstate : tx.state = .idle := h
    rw [if_neg fun hp => TxResult.noConfusion (hstate.symm.trans hp.1)]
    dsimp only
    rw [hstate]
    exact ⟨hstate, rfl⟩
  | pending payload sent sinceUs timeoutUs =>
    have hviews := h
    obtain ⟨hstate, hframe, hlength, haccepted, hrest, rfl, rfl⟩ := h
    rw [Sender.poll]
    by_cases hlate : tx.timeoutUs ≤ nowUs - tx.lastProgressUs
    · rw [if_pos ⟨hstate, hlate⟩, if_pos hlate]
      exact ⟨rfl, rfl⟩
    · rw [if_neg fun hp => hlate hp.2, if_neg hlate]
      dsimp only
      rw [hstate]
      exact ⟨hviews, rfl⟩
  | ended result length =>
    obtain ⟨hstate, hterminal, hlength⟩ := h
    have hdrains : ¬cdcTxKind.drains = true := Bool.false_ne_true
    rw [if_neg fun hp => absurd hterminal (by rw [← hstate, hp.1]; exact Bool.false_ne_true)]
    dsimp only
    rw [hstate, hterminal, if_pos rfl, Sender.poll, if_neg fun hp => hdrains hp.1]
    exact ⟨rfl, rfl⟩

theorem refines : TxRefines cdcTxKind step Views where
  next h op := by
    cases op with
    | start frame nowUs timeoutUs => exact (h.start frame nowUs timeoutUs).1
    | writable nowUs written complete => exact (h.onWritable nowUs written complete).1
    | driverFault => exact h.driverFault.1
    | cancel => exact h.cancel.1
    | poll nowUs => exact (h.poll nowUs).1
  output h op := by
    cases op with
    | start frame nowUs timeoutUs => exact (h.start frame nowUs timeoutUs).2
    | writable nowUs written complete =>
      exact congrArg (TxOutput.mk · none 0) (h.onWritable nowUs written complete).2
    | driverFault => exact h.driverFault.2
    | cancel => exact h.cancel.2
    | poll nowUs => exact (h.poll nowUs).2

end CdcTx

/-- Both machines send exactly an initial part of each payload, and say so once. -/
theorem transmitters_exact :
    ExactTransmitter uartTxKind UartTx.step .init ∧ ExactTransmitter cdcTxKind CdcTx.step .init :=
  ⟨UartTx.refines.exactTransmitter rfl, CdcTx.refines.exactTransmitter rfl⟩
