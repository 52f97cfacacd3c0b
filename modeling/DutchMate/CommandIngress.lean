/-
# Command ingress

`ndjson_framer.c` and `command_ingress.c`: received bytes to requests.  Whatever the chunks,
every complete line is one request (`feedChunks_eq`): a line longer than a frame is discarded
to its newline and answered as an invalid argument, and leaves nothing behind.
-/
import DutchMate.CommandDecode
import DutchMate.StreamParser

open SplitLines

/-! ## The framer -/

def hostFrameMaxBytes : ℕ := 2048

def hostFrameMaxPendingBytes : ℕ := hostFrameMaxBytes - 1

inductive NdjsonOutcome where
  | incomplete
  | frameReady (frame : List UInt8)
  | frameTooLarge
  deriving DecidableEq, Repr

structure NdjsonFramer where
  pending : List UInt8 := []
  discardingOversize : Bool := false
  deriving DecidableEq, Repr

def dropCarriageReturn (line : List UInt8) : List UInt8 :=
  if line.getLast? = some 13 then line.dropLast else line

namespace NdjsonFramer

/-- One byte of the loop. -/
def push (framer : NdjsonFramer) (byte : UInt8) : NdjsonFramer × NdjsonOutcome :=
  if framer.discardingOversize then
    if byte = newline then ({}, .frameTooLarge) else (framer, .incomplete)
  else if byte = newline then
    ({ framer with pending := [] }, .frameReady (dropCarriageReturn framer.pending))
  else if framer.pending.length = hostFrameMaxPendingBytes then
    ({ pending := [], discardingOversize := true }, .incomplete)
  else ({ framer with pending := framer.pending ++ [byte] }, .incomplete)

/-- At most one outcome, and how many bytes it took. -/
def feed (framer : NdjsonFramer) : List UInt8 → NdjsonFramer × NdjsonOutcome × ℕ
  | [] => (framer, .incomplete, 0)
  | byte :: input =>
    match framer.push byte with
    | (framer, .incomplete) =>
      let (framer, outcome, consumed) := framer.feed input
      (framer, outcome, consumed + 1)
    | (framer, outcome) => (framer, outcome, 1)

end NdjsonFramer

/-! ## Requests -/

/-- A request that is complete. -/
inductive CommandRequest where
  | command (command : Command)
  | invalidCommand
  | invalidArgument
  deriving DecidableEq, Repr

def frameRequest (frame : List UInt8) : CommandRequest :=
  match commandDecode frame with
  | .ok command => .command command
  | .error .invalidArgument => .invalidArgument
  | .error .invalidCommand => .invalidCommand

structure CommandIngress where
  framer : NdjsonFramer := {}
  deriving DecidableEq, Repr

def NdjsonOutcome.request? : NdjsonOutcome → Option CommandRequest
  | incomplete => none
  | frameReady frame => some (frameRequest frame)
  | frameTooLarge => some .invalidArgument

namespace CommandIngress

def reset : CommandIngress := {}

def feed (ingress : CommandIngress) (input : List UInt8) :
    CommandIngress × Option CommandRequest × ℕ :=
  let (framer, outcome, consumed) := ingress.framer.feed input
  ({ framer := framer }, outcome.request?, consumed)

/-- A chunk fed until all of it is consumed; `none` when a feed consumed nothing. -/
def feedChunk (ingress : CommandIngress) (input : List UInt8) :
    Option (CommandIngress × List CommandRequest) :=
  if _hinput : input = [] then some (ingress, [])
  else
    match ingress.feed input with
    | (fed, request, consumed) =>
      if _hconsumed : consumed = 0 then none
      else
        (fed.feedChunk (input.drop consumed)).map fun (ingress, requests) =>
          (ingress, request.toList ++ requests)
termination_by input.length
decreasing_by
  have hlength := List.length_pos_of_ne_nil _hinput
  rw [List.length_drop]
  omega

def feedChunks (ingress : CommandIngress) :
    List (List UInt8) → Option (CommandIngress × List CommandRequest)
  | [] => some (ingress, [])
  | chunk :: chunks =>
    (ingress.feedChunk chunk).bind fun (ingress, requests) =>
      (ingress.feedChunks chunks).map fun (ingress, more) => (ingress, requests ++ more)

end CommandIngress

/-! ## Lines to requests -/

/-- What a line, without its newline, is framed as. -/
def lineOutcome (line : List UInt8) : NdjsonOutcome :=
  if hostFrameMaxPendingBytes < line.length then .frameTooLarge
  else .frameReady (dropCarriageReturn line)

/-- The request of a line. -/
def lineRequest (line : List UInt8) : CommandRequest :=
  if hostFrameMaxPendingBytes < line.length then .invalidArgument
  else frameRequest (dropCarriageReturn line)

theorem request?_lineOutcome (line : List UInt8) :
    (lineOutcome line).request? = some (lineRequest line) := by
  unfold lineOutcome lineRequest
  split <;> rfl

namespace NdjsonFramer

/-- The framer with this much of a line behind it. -/
def amid (line : List UInt8) : NdjsonFramer :=
  if hostFrameMaxPendingBytes < line.length then { pending := [], discardingOversize := true }
  else { pending := line }

theorem amid_nil : amid [] = {} := if_neg (Nat.not_lt_zero _)

/-- A newline ends the line, and the next one starts afresh. -/
theorem push_newline (line : List UInt8) :
    (amid line).push newline = (amid [], lineOutcome line) := by
  unfold amid lineOutcome push
  by_cases hlong : hostFrameMaxPendingBytes < line.length
  · rw [if_pos hlong, if_pos hlong]
    rfl
  · rw [if_neg hlong, if_neg hlong]
    rfl

/-- Any other byte is one more of the line. -/
theorem push_other (line : List UInt8) {byte : UInt8} (h : byte ≠ newline) :
    (amid line).push byte = (amid (line ++ [byte]), .incomplete) := by
  unfold amid push
  rw [List.length_append, List.length_singleton]
  by_cases hlong : hostFrameMaxPendingBytes < line.length
  · rw [if_pos hlong, if_pos (show hostFrameMaxPendingBytes < line.length + 1 by omega),
      if_pos rfl, if_neg h]
  · rw [if_neg hlong, if_neg nofun, if_neg h]
    by_cases hfull : line.length = hostFrameMaxPendingBytes
    · rw [if_pos hfull, if_pos (show hostFrameMaxPendingBytes < line.length + 1 by omega)]
    · rw [if_neg hfull, if_neg (show ¬hostFrameMaxPendingBytes < line.length + 1 by omega)]

theorem feed_open (line : List UInt8) {input : List UInt8} (h : newline ∉ input) :
    (amid line).feed input = (amid (line ++ input), .incomplete, input.length) := by
  induction input generalizing line with
  | nil => rw [List.append_nil]; rfl
  | cons byte input ih =>
    have hbyte : byte ≠ newline := fun heq => h (heq ▸ List.mem_cons_self)
    have hinput : newline ∉ input := fun hmem => h (List.mem_cons_of_mem _ hmem)
    rw [feed, push_other line hbyte]
    dsimp only
    rw [ih (line ++ [byte]) hinput, List.append_assoc]
    rfl

theorem feed_line (line : List UInt8) {body rest : List UInt8} (h : newline ∉ body) :
    (amid line).feed (body ++ newline :: rest)
      = (amid [], lineOutcome (line ++ body), body.length + 1) := by
  induction body generalizing line with
  | nil =>
    rw [List.nil_append, List.append_nil, feed, push_newline, lineOutcome]
    by_cases hlong : hostFrameMaxPendingBytes < line.length
    · rw [if_pos hlong]
      rfl
    · rw [if_neg hlong]
      rfl
  | cons byte body ih =>
    have hbyte : byte ≠ newline := fun heq => h (heq ▸ List.mem_cons_self)
    have hbody : newline ∉ body := fun hmem => h (List.mem_cons_of_mem _ hmem)
    rw [List.cons_append, feed, push_other line hbyte]
    dsimp only
    rw [ih (line ++ [byte]) hbody, List.append_assoc]
    rfl

end NdjsonFramer

namespace CommandIngress

/-- The ingress with this much of a line behind it. -/
def amid (line : List UInt8) : CommandIngress := { framer := .amid line }

theorem feedChunk_open (line : List UInt8) {input : List UInt8} (h : newline ∉ input) :
    (amid line).feedChunk input = some (amid (line ++ input), []) := by
  rw [feedChunk]
  split
  · rename_i hinput
    rw [hinput, List.append_nil]
  rename_i hinput
  have hfed : (amid line).feed input = (amid (line ++ input), none, input.length) := by
    rw [feed, amid, NdjsonFramer.feed_open line h]
    rfl
  rw [hfed]
  dsimp only
  rw [dif_neg (Nat.ne_of_gt (List.length_pos_of_ne_nil hinput))]
  rw [List.drop_length, feedChunk, dif_pos rfl]
  rfl

theorem feedChunk_line (line : List UInt8) {body rest : List UInt8} (h : newline ∉ body) :
    (amid line).feedChunk (body ++ newline :: rest)
      = ((amid []).feedChunk rest).map fun (ingress, requests) =>
          (ingress, lineRequest (line ++ body) :: requests) := by
  have hfed : (amid line).feed (body ++ newline :: rest)
      = (amid [], some (lineRequest (line ++ body)), body.length + 1) := by
    rw [feed, amid, NdjsonFramer.feed_line line h]
    dsimp only
    rw [request?_lineOutcome]
    rfl
  rw [feedChunk, dif_neg (by simp), hfed]
  dsimp only
  rw [dif_neg (Nat.succ_ne_zero _), show (body ++ newline :: rest).drop (body.length + 1) = rest by simp]
  rfl

theorem splitFrom_isFrameEnd_open {line input : List UInt8} (h : newline ∉ input) :
    splitFrom isFrameEnd line input = ([], line ++ input) :=
  splitFrom_open isFrameEnd line input fun _ hb =>
    decide_eq_false fun heq => h (heq ▸ hb)

/-- A chunk: its complete lines are requests, and what follows them waits. -/
theorem feedChunk_eq (line input : List UInt8) :
    (amid line).feedChunk input
      = some (amid (splitFrom isFrameEnd line input).2,
          ((splitFrom isFrameEnd line input).1.map List.dropLast).map lineRequest) := by
  induction hn : input.length using Nat.strong_induction_on generalizing line input with
  | _ n ih =>
    by_cases hnewline : newline ∈ input
    · obtain ⟨body, rest, rfl, hbody⟩ := List.eq_append_cons_of_mem hnewline
      have hopen : ∀ b ∈ body, isFrameEnd b = false := fun b hb =>
        decide_eq_false fun heq => hbody (heq ▸ hb)
      have hrest : rest.length < n := by
        rw [← hn, List.length_append, List.length_cons]
        omega
      rw [feedChunk_line line hbody, ih rest.length hrest [] rest rfl,
        splitFrom_segment isFrameEnd line body rest newline hopen rfl]
      simp only [Option.map_some, List.map_cons, List.dropLast_concat]
    · rw [feedChunk_open line hnewline, splitFrom_isFrameEnd_open hnewline]
      rfl

theorem feedChunks_amid (line : List UInt8) (chunks : List (List UInt8)) :
    (amid line).feedChunks chunks
      = some (amid (splitFrom isFrameEnd line chunks.flatten).2,
          ((splitFrom isFrameEnd line chunks.flatten).1.map List.dropLast).map lineRequest) := by
  induction chunks generalizing line with
  | nil => rfl
  | cons chunk chunks ih =>
    rw [feedChunks, feedChunk_eq line chunk, Option.bind_some]
    dsimp only
    rw [ih, List.flatten_cons, splitFrom_append, List.map_append, List.map_append]
    rfl

/-- Whatever the chunks, the requests are those of the stream's complete lines. -/
theorem feedChunks_eq (chunks : List (List UInt8)) :
    CommandIngress.reset.feedChunks chunks
      = some (amid (splitNewlines chunks.flatten).2,
          (splitNewlines chunks.flatten).1.map lineRequest) := by
  have h := feedChunks_amid [] chunks
  rwa [amid, NdjsonFramer.amid_nil] at h

end CommandIngress
