import MegaEvm.StateGrowth

/-!
# Data size beside KV updates

The data size of an account or slot write is a fixed number of bytes for the KV
update it is, and two trackers count the two apart. What the first holds beyond
the second is the transaction itself, and the logs and the code that were not
taken back.
-/

set_option autoImplicit false

namespace MegaEvm

open Checkpoint

namespace FrameLimitTracker

variable {ι : Type} {unit : ℕ} {g : Ledger} {t t' : FrameLimitTracker ι}

/-- The same open frames, and `g` is what the first tracker holds beyond `unit` for
each one of the second. -/
structure InStep (unit : ℕ) (g : Ledger) (t t' : FrameLimitTracker ι) : Prop where
  frames : SameFrames t t'
  gap : t.ledger - t'.ledger.scale unit = g

namespace InStep

theorem length_eq (h : InStep unit g t t') :
    t.ledger.frames.length = (t'.ledger.scale unit).frames.length := by
  rw [Ledger.length_scale]
  exact h.frames.length_eq

theorem length (h : InStep unit g t t') : g.frames.length = t.height := by
  rw [← h.gap, Ledger.sub_def, List.length_zipWith, ← h.length_eq, length_ledger, Nat.min_self]

theorem total (h : InStep unit g t t') :
    t.ledger.total = unit * t'.ledger.total + g.total := by
  have htotal := Ledger.total_sub h.length_eq
  rw [h.gap, Ledger.total_scale] at htotal
  omega

theorem pushFrameBy (h : InStep unit g t t') (rex4 : Bool) (i : ι) :
    InStep unit g.push (t.pushFrameBy rex4 i) (t'.pushFrameBy rex4 i) := by
  constructor
  · exact h.frames.pushFrameBy rex4 i
  · rw [ledger_pushFrameBy, ledger_pushFrameBy, Ledger.scale_push, Ledger.push_sub_push, h.gap]

theorem popFrame (h : InStep unit g t t') (success : Bool) :
    InStep unit (g.pop success) (t.popFrame success) (t'.popFrame success) := by
  constructor
  · exact h.frames.popFrame success
  · rw [ledger_popFrame h.frames.discardable, ledger_popFrame h.frames.discardable',
      Ledger.scale_pop, Ledger.pop_sub_pop h.length_eq, h.gap]

theorem modifyFrame (h : InStep unit g t t') {f f' : FrameLimitEntry ι → FrameLimitEntry ι}
    (amount : ℤ) (hinfo : ∀ e e', e.info = e'.info → (f e).info = (f' e').info)
    (hf : ∀ e, (f e).persistentUsage = e.persistentUsage)
    (hf' : ∀ e, (f' e).persistentUsage = e.persistentUsage)
    (hsigned : ∀ e, (f e).signed = e.signed + unit * amount)
    (hsigned' : ∀ e, (f' e).signed = e.signed + amount) :
    InStep unit g (t.modifyFrame f) (t'.modifyFrame f') := by
  by_cases hnil : t.frameStack = []
  · have hnil' : t'.frameStack = [] := h.frames.frameStack_nil.1 hnil
    rw [modifyFrame_nil hnil, modifyFrame_nil hnil']
    exact h
  · have hnil' : t'.frameStack ≠ [] := mt h.frames.frameStack_nil.2 hnil
    constructor
    · exact h.frames.modifyFrame hinfo hf hf'
    · rw [ledger_modifyFrame hnil hsigned, ledger_modifyFrame hnil' hsigned', Ledger.scale_post,
        Ledger.post_sub_post h.length_eq, h.gap, sub_self, Ledger.post_zero]

theorem recordDiscardable (h : InStep unit g t t') :
    InStep unit g (t.recordDiscardable unit) (t'.recordDiscardable 1) := by
  apply h.modifyFrame 1
  · exact fun _ _ he => he
  · exact fun _ => rfl
  · exact fun _ => rfl
  · intro e
    simp only [FrameLimitEntry.signed, FrameLimitEntry.used]
    omega
  · intro e
    simp only [FrameLimitEntry.signed, FrameLimitEntry.used]
    omega

theorem recordRefund (h : InStep unit g t t') :
    InStep unit g (t.recordRefund unit) (t'.recordRefund 1) := by
  apply h.modifyFrame (-1)
  · exact fun _ _ he => he
  · exact fun _ => rfl
  · exact fun _ => rfl
  · intro e
    simp only [FrameLimitEntry.signed, FrameLimitEntry.used]
    omega
  · intro e
    simp only [FrameLimitEntry.signed, FrameLimitEntry.used]
    omega

theorem recordFirst (h : InStep unit g t t') (hne : t.frameStack ≠ []) (n : ℕ) :
    InStep unit (g.post n) (t.recordDiscardable n) t' := by
  have hsame : (t.recordDiscardable n).frameStack.map (·.info) = t.frameStack.map (·.info) := by
    obtain ⟨tx, stack⟩ := t
    cases stack with
    | nil => rfl
    | cons e rest => rfl
  have hpost := Ledger.post_sub_post h.length_eq n 0
  rw [Ledger.post_zero, h.gap, sub_zero] at hpost
  constructor
  · constructor
    · rw [hsame, h.frames.infos]
    · exact h.frames.discardable.modifyFrame fun _ => rfl
    · exact h.frames.discardable'
  · rw [ledger_recordDiscardable hne, hpost]

end InStep

end FrameLimitTracker

namespace AccountTracker

open FrameLimitTracker

variable {unit : ℕ} {g : Ledger} {t t' : AccountTracker}

theorem inStep_recordIf (h : InStep unit g t t') (b : Bool) :
    InStep unit g (recordIf b unit t) (recordIf b 1 t') := by
  cases b with
  | true => exact h.recordDiscardable
  | false => exact h

theorem inStep_beforeFrameInitBy (h : InStep unit g t t') (rex4 : Bool) (input : FrameInput) :
    InStep unit g.push (beforeFrameInitBy unit rex4 t input)
      (beforeFrameInitBy 1 rex4 t' input) := by
  cases input with
  | call i =>
    have hpushed := h.pushFrameBy rex4 ⟨some i.targetAddress, i.transfersValue⟩
    simp only [beforeFrameInitBy, parentNeedsUpdate_sameFrames h.frames]
    split
    · exact (inStep_recordIf hpushed _).recordDiscardable
    · exact hpushed
  | create i =>
    simp only [beforeFrameInitBy, parentNeedsUpdate_sameFrames h.frames]
    exact inStep_recordIf (h.pushFrameBy rex4 ⟨none, true⟩) _

theorem inStep_afterFrameInitOnFrameBy (h : InStep unit g t t') (a : Option Address) :
    InStep unit g (afterFrameInitOnFrameBy unit t a) (afterFrameInitOnFrameBy 1 t' a) := by
  cases a with
  | none => exact h
  | some a =>
    apply h.modifyFrame 1
    · intro e e' he
      simp only [he]
    · exact fun _ => rfl
    · exact fun _ => rfl
    · intro e
      simp only [FrameLimitEntry.signed, FrameLimitEntry.used]
      omega
    · intro e
      simp only [FrameLimitEntry.signed, FrameLimitEntry.used]
      omega

theorem inStep_afterSstoreBy (h : InStep unit g t t') (r : SStoreResult) :
    InStep unit g (afterSstoreBy unit t r) (afterSstoreBy 1 t' r) := by
  unfold afterSstoreBy
  split
  · split
    · exact h.recordDiscardable
    · exact h
  · split
    · exact h.recordRefund
    · exact h

end AccountTracker

namespace AdditionalLimit

open FrameLimitTracker

variable {g : Ledger} {l : AdditionalLimit}

def InStep (g : Ledger) (l : AdditionalLimit) : Prop :=
  l.dataSize.InStep constants.STORAGE_SLOT_WRITE_SIZE g l.kvUpdate

namespace InStep

theorem checkLimit (h : l.InStep g) : l.checkLimit.InStep g := by
  unfold InStep
  rw [checkLimit_dataSize, checkLimit_kvUpdate]
  exact h

theorem beforeTxStart (limits : EvmTxRuntimeLimits) (spec : MegaSpecId) (tx : MegaTransaction) :
    ((AdditionalLimit.new spec limits).reset.beforeTxStart tx).InStep
      ⟨110 + tx.inputLen + tx.accessListSize + 101 * tx.authorities.length, []⟩ := by
  apply InStep.checkLimit
  constructor
  · constructor
    · rfl
    · intro e he
      cases he
    · intro e he
      cases he
  · simp only [Ledger.sub_def, Ledger.scale, ledger, DataSizeTracker.beforeTxStart,
      KVUpdateTracker.beforeTxStart, modifyTx, AdditionalLimit.reset, FrameLimitTracker.reset,
      FrameLimitEntry.signed, FrameLimitEntry.used, FrameLimitEntry.new, constants.BASE_TX_SIZE,
      constants.AUTHORIZATION_SIZE, constants.ACCOUNT_INFO_WRITE_SIZE,
      constants.STORAGE_SLOT_WRITE_SIZE, List.map_nil, List.zipWith_nil_left, Ledger.mk.injEq,
      and_true]
    push_cast
    ring

theorem recordComputeGas (h : l.InStep g) (gas : ℕ) : (l.recordComputeGas gas).InStep g := by
  apply InStep.checkLimit
  exact h

theorem openFrame (h : l.InStep g) (input : FrameInput) (te : Bool) :
    (l.openFrame input te).InStep g.push := by
  apply InStep.checkLimit
  exact AccountTracker.inStep_beforeFrameInitBy h l.rex4 input

theorem pushEmptyFrame (h : l.InStep g) : l.pushEmptyFrame.InStep g.push :=
  h.pushFrameBy l.rex4 ⟨none, false⟩

theorem afterFrameInitItem (h : l.InStep g) (created : Option Address) :
    (l.afterFrameInitItem created).InStep g :=
  AccountTracker.inStep_afterFrameInitOnFrameBy h created

theorem closeFrame (h : l.InStep g) (success : Bool) :
    (l.closeFrame success).InStep (g.pop success) := by
  apply InStep.checkLimit
  exact h.popFrame success

theorem onSstore (h : l.InStep g) (r : SStoreResult) : (l.onSstore r).InStep g := by
  apply InStep.checkLimit
  exact AccountTracker.inStep_afterSstoreBy h r

theorem onLog (h : l.InStep g) (hne : l.dataSize.frameStack ≠ []) (numTopics dataSize : ℕ) :
    (l.onLog numTopics dataSize).InStep
      (g.post (numTopics * constants.LOG_TOPIC_SIZE + dataSize : ℕ)) := by
  apply InStep.checkLimit
  exact h.recordFirst hne _

/-- The output of a create frame is its code. -/
theorem countOutput (h : l.InStep g) (hne : l.dataSize.frameStack ≠ []) (r : InterpreterResult) :
    (l.countOutput true (.return r)).InStep (g.post r.output.length) :=
  h.recordFirst hne _

end InStep

end AdditionalLimit

/-- An account of this transaction is destroyed: what does not go to the target is
burnt. -/
def JournalState.destroy (j : JournalState) (address target : Address) : JournalState :=
  (j.selfdestruct address target).modifyAccount address fun a => { a with balance := 0 }

/-- A run with the sizes of the logs and of the deployed code: `emitted` is what no
failed frame took back, and `marks` is it at every open frame's checkpoint. -/
structure EmittingRun where
  run : JournalRun
  emitted : List ℕ
  marks : List (List ℕ)

/-- `refused` is a frame that is answered after the limits have seen it, and
`lastFrame` the result of the outermost frame handed over once more. -/
inductive EmittingOp where
  | journal (op : JournalOp)
  | destroy (address target : Address)
  | refused (input : FrameInput) (targetEmpty : Bool)
  | lastFrame (success : Bool)
  deriving DecidableEq, Repr

namespace EmittingRun

variable (env : JournalEnv)

def emit (w : EmittingRun) (run : JournalRun) (size : ℕ) : Option EmittingRun :=
  match w.marks with
  | [] => none
  | _ :: _ => some { w with run := run, emitted := size :: w.emitted }

def mark (w : EmittingRun) (run : JournalRun) : EmittingRun :=
  ⟨run, w.emitted, w.emitted :: w.marks⟩

def follow (w : EmittingRun) (run : JournalRun) : JournalOp → Option EmittingRun
  | .call _ => some (w.mark run)
  | .create _ _ _ _ => some (w.mark run)
  | .answered => some (w.mark run)
  | .log numTopics dataSize => w.emit run (numTopics * constants.LOG_TOPIC_SIZE + dataSize)
  | .output true (.return r) => w.emit run r.output.length
  | .close success =>
    match w.marks with
    | [] => none
    | marked :: marks => some ⟨run, if success then w.emitted else marked, marks⟩
  | _ => some { w with run := run }

def step (w : EmittingRun) : EmittingOp → Option EmittingRun
  | .journal op => (JournalRun.step env w.run op).bind fun run => w.follow run op
  | .refused input targetEmpty =>
    some (w.mark ((w.run.hook fun l => l.openFrame input targetEmpty).openFrame w.run.journal))
  | .destroy address target =>
    if w.marks ≠ [] ∧ (w.run.journal.accounts address).created then
      some { w with run := { w.run with journal := w.run.journal.destroy address target } }
    else none
  | .lastFrame success =>
    if w.marks = [] then some { w with run := w.run.hook fun l => l.closeFrame success }
    else none

def start (limits : EvmTxRuntimeLimits) (tx : MegaTransaction)
    (accounts : Address → JournalAccount) (accessList : List SlotKey) : EmittingRun :=
  ⟨JournalRun.start env limits tx accounts accessList, [], []⟩

/-- The condition on a step under which no refund exceeds what it refunds. -/
def SlotsDirect (w : EmittingRun) : EmittingOp → Prop
  | .journal (.sstore address _ _) => JournalRun.Undelegated env w.run.journal address
  | _ => True

variable {env} {w w' : EmittingRun}

theorem emit_cases {run : JournalRun} {size : ℕ} (hs : w.emit run size = some w') :
    w.marks ≠ [] ∧ w' = { w with run := run, emitted := size :: w.emitted } := by
  obtain ⟨run', emitted, marks⟩ := w
  cases marks with
  | nil => cases hs
  | cons marked marks =>
    obtain rfl := Option.some.inj hs
    exact ⟨List.cons_ne_nil _ _, rfl⟩

def level (base : ℤ) (emitted : List ℕ) : ℤ := base + (emitted.sum : ℕ)

/-- The data size is ahead of the KV updates by the bytes that were emitted, frame by
frame. -/
structure InStep (base : ℤ) (w : EmittingRun) : Prop where
  trackers : ∃ g, w.run.limit.InStep g ∧
    g.Slack (· = 0) (w.marks.map (level base)) (level base w.emitted)
  depth : w.marks.length = w.run.checkpoints.length

namespace InStep

variable {base : ℤ}

theorem hooked (h : w.InStep base) {run : JournalRun}
    (hl : ∀ g, w.run.limit.InStep g → run.limit.InStep g)
    (hc : run.checkpoints.length = w.run.checkpoints.length) :
    InStep base { w with run := run } := by
  obtain ⟨g, hg, hslack⟩ := h.trackers
  constructor
  · exact ⟨g, hl g hg, hslack⟩
  · rw [hc]
    exact h.depth

theorem mark (h : w.InStep base) {run : JournalRun} {opened : JournalState}
    (hl : ∀ g, w.run.limit.InStep g → run.limit.InStep g.push)
    (hc : run.checkpoints = opened :: w.run.checkpoints) : InStep base (w.mark run) := by
  obtain ⟨g, hg, hslack⟩ := h.trackers
  constructor
  · exact ⟨g.push, hl g hg, Ledger.Slack.push hslack⟩
  · simp only [EmittingRun.mark, hc, List.length_cons, h.depth]

theorem emit (h : w.InStep base) {run : JournalRun} {size : ℕ}
    (hl : ∀ g, w.run.limit.InStep g → w.run.limit.dataSize.frameStack ≠ [] →
      run.limit.InStep (g.post size))
    (hc : run.checkpoints = w.run.checkpoints) (hs : w.emit run size = some w') :
    w'.InStep base := by
  obtain ⟨g, hg, hslack⟩ := h.trackers
  obtain ⟨hne, rfl⟩ := emit_cases hs
  have hopen : w.run.limit.dataSize.frameStack ≠ [] := by
    intro hnil
    have hlength := Ledger.Slack.length hslack
    rw [FrameLimitTracker.InStep.length hg, List.length_map] at hlength
    simp only [FrameLimitTracker.height, hnil, List.length_nil] at hlength
    exact hne (List.eq_nil_of_length_eq_zero hlength.symm)
  have hposted : level base (size :: w.emitted) = level base w.emitted + size := by
    simp only [level, List.sum_cons]
    omega
  constructor
  · refine ⟨g.post size, hl g hg hopen, ?_⟩
    rw [hposted]
    apply Ledger.Slack.post hslack
    intro x hx
    omega
  · rw [hc]
    exact h.depth

theorem closeFrame (h : w.InStep base) {run : JournalRun} {opened : JournalState}
    {marked : List ℕ} {marks : List (List ℕ)} (hm : w.marks = marked :: marks)
    {success : Bool} (hl : ∀ g, w.run.limit.InStep g → run.limit.InStep (g.pop success))
    (hc : w.run.checkpoints = opened :: run.checkpoints) :
    InStep base ⟨run, if success then w.emitted else marked, marks⟩ := by
  obtain ⟨g, hg, hslack⟩ := h.trackers
  have hdepth := h.depth
  rw [hm, List.map_cons] at hslack
  rw [hm, hc] at hdepth
  have hpopped := Ledger.Slack.pop hslack success
  constructor
  · refine ⟨g.pop success, hl g hg, ?_⟩
    cases success with
    | true => exact hpopped
    | false => exact hpopped
  · exact Nat.succ.inj hdepth

theorem create (h : w.InStep base) (creator created : Address) (value : ℕ) (i : CreateInputs) :
    InStep base (w.mark (w.run.create creator created value i)) := by
  obtain ⟨opened, hc, -, -⟩ := JournalRun.create_opened w.run creator created value i
  refine h.mark ?_ hc
  intro g hg
  have hopened := hg.openFrame (.create i) false
  simp only [JournalRun.create]
  split
  · exact hopened
  · split
    · exact hopened
    · exact hopened.afterFrameInitItem _

theorem output (h : w.InStep base) {isCreate : Bool} {action : InterpreterAction}
    (hs : w.follow (w.run.hook fun l => l.countOutput isCreate action)
      (.output isCreate action) = some w') : w'.InStep base := by
  cases isCreate with
  | false =>
    obtain rfl := Option.some.inj hs
    cases action with
    | newFrame i => exact h.hooked (fun _ hg => hg) rfl
    | «return» r => exact h.hooked (fun _ hg => hg) rfl
  | true =>
    cases action with
    | newFrame i =>
      obtain rfl := Option.some.inj hs
      exact h.hooked (fun _ hg => hg) rfl
    | «return» r =>
      have hemit : w.emit (w.run.hook fun l => l.countOutput true (.return r))
          r.output.length = some w' := hs
      apply h.emit _ _ hemit
      · exact fun _ hg hne => hg.countOutput hne r
      · rfl

theorem close (h : w.InStep base) {success : Bool} {run : JournalRun} {opened : JournalState}
    (hl : ∀ g, w.run.limit.InStep g → run.limit.InStep (g.pop success))
    (hc : w.run.checkpoints = opened :: run.checkpoints)
    (hs : w.follow run (.close success) = some w') : w'.InStep base := by
  cases hm : w.marks with
  | nil =>
    have hdepth := h.depth
    rw [hm, hc] at hdepth
    cases hdepth
  | cons marked marks =>
    simp only [follow, hm, Option.some.injEq] at hs
    rw [← hs]
    exact h.closeFrame hm hl hc

theorem journal (h : w.InStep base) {op : JournalOp} {run : JournalRun}
    (hr : JournalRun.step env w.run op = some run) (hs : w.follow run op = some w') :
    w'.InStep base := by
  cases JournalRun.step_cases hr with
  | call i =>
    obtain rfl := Option.some.inj hs
    exact h.mark (fun _ hg => hg.openFrame _ _) rfl
  | create may =>
    obtain rfl := Option.some.inj hs
    exact h.create _ _ _ _
  | answered =>
    obtain rfl := Option.some.inj hs
    exact h.mark (fun _ hg => hg.pushEmptyFrame) rfl
  | deploy nonce =>
    obtain rfl := Option.some.inj hs
    exact h.hooked (fun _ hg => hg) rfl
  | sstore inFrame =>
    obtain rfl := Option.some.inj hs
    exact h.hooked (fun _ hg => hg.onSstore _) rfl
  | selfdestruct =>
    obtain rfl := Option.some.inj hs
    exact h.hooked (fun _ hg => hg) rfl
  | log numTopics dataSize =>
    have hemit : w.emit (w.run.hook fun l => l.onLog numTopics dataSize)
        (numTopics * constants.LOG_TOPIC_SIZE + dataSize) = some w' := hs
    apply h.emit _ _ hemit
    · exact fun _ hg hne => hg.onLog hne numTopics dataSize
    · rfl
  | compute gas =>
    obtain rfl := Option.some.inj hs
    exact h.hooked (fun _ hg => hg.recordComputeGas gas) rfl
  | output isCreate action => exact h.output hs
  | close top => exact h.close (fun _ hg => hg.closeFrame _) top hs

theorem lastFrame (h : w.InStep base) (hm : w.marks = []) (success : Bool) :
    InStep base { w with run := w.run.hook fun l => l.closeFrame success } := by
  obtain ⟨g, hg, hslack⟩ := h.trackers
  have hnil : g.frames = [] := by
    have hlength := Ledger.Slack.length hslack
    rw [hm] at hlength
    exact List.eq_nil_of_length_eq_zero hlength
  have hpop : g.pop success = g := by
    rw [Ledger.pop, hnil]
  constructor
  · refine ⟨g, ?_, hslack⟩
    rw [← hpop]
    exact hg.closeFrame success
  · exact h.depth

theorem step (h : w.InStep base) {op : EmittingOp} (hs : EmittingRun.step env w op = some w') :
    w'.InStep base := by
  cases op with
  | journal op =>
    obtain ⟨run, hr, hfollow⟩ := Option.bind_eq_some_iff.1 hs
    exact h.journal hr hfollow
  | refused input targetEmpty =>
    obtain rfl := Option.some.inj hs
    exact h.mark (fun _ hg => hg.openFrame input targetEmpty) rfl
  | destroy address target =>
    simp only [EmittingRun.step, Option.ite_none_right_eq_some, Option.some.injEq] at hs
    rw [← hs.2]
    exact h.hooked (fun _ hg => hg) rfl
  | lastFrame success =>
    simp only [EmittingRun.step, Option.ite_none_right_eq_some, Option.some.injEq] at hs
    rw [← hs.2]
    exact h.lastFrame hs.1 success

end InStep

theorem inStep_start (limits : EvmTxRuntimeLimits) (tx : MegaTransaction)
    (accounts : Address → JournalAccount) (accessList : List SlotKey) :
    InStep (110 + tx.inputLen + tx.accessListSize + 101 * tx.authorities.length)
      (start env limits tx accounts accessList) := by
  constructor
  · refine ⟨_, AdditionalLimit.InStep.beforeTxStart limits env.spec tx, ?_⟩
    show (110 + tx.inputLen + tx.accessListSize + 101 * tx.authorities.length : ℤ) - level _ [] = 0
    simp only [level, List.sum_nil]
    omega
  · rfl

theorem tallied_lastFrame {run : JournalRun} (h : JournalRun.Tallied env run)
    (hc : run.checkpoints = []) (success : Bool) :
    JournalRun.Tallied env (run.hook fun l => l.closeFrame success) := by
  obtain ⟨gs, gd, gk, hpaired, hs, hd, hk⟩ := h.ledgers
  have hpop {level : JournalState → ℤ} {g : Ledger} (hkeeps : run.Keeps (· = 0) level g) :
      g.pop success = g := by
    have hlength := Ledger.Slack.length hkeeps
    rw [hc] at hlength
    rw [Ledger.pop, List.eq_nil_of_length_eq_zero hlength]
  have hclosed := hpaired.closeFrame success
  rw [hpop hs, hpop hd, hpop hk] at hclosed
  constructor
  · exact ⟨gs, gd, gk, hclosed, hs, hd, hk⟩
  · exact h.slots.moved rfl rfl

theorem follow_run {run : JournalRun} {op : JournalOp} (hs : w.follow run op = some w') :
    w'.run = run := by
  have hemit {size : ℕ} (he : w.emit run size = some w') : w'.run = run := by
    obtain ⟨-, rfl⟩ := emit_cases he
    rfl
  cases op with
  | log numTopics dataSize => exact hemit hs
  | output isCreate action =>
    cases isCreate with
    | false =>
      obtain rfl := Option.some.inj hs
      rfl
    | true =>
      cases action with
      | newFrame i =>
        obtain rfl := Option.some.inj hs
        rfl
      | «return» r => exact hemit hs
  | close success =>
    cases hm : w.marks with
    | nil =>
      simp only [follow, hm] at hs
      cases hs
    | cons marked marks =>
      simp only [follow, hm, Option.some.injEq] at hs
      rw [← hs]
  | _ =>
    obtain rfl := Option.some.inj hs
    rfl

theorem tallied_step (h : JournalRun.Tallied env w.run)
    (hdepth : w.marks.length = w.run.checkpoints.length) {op : EmittingOp}
    (hok : SlotsDirect env w op) (hs : step env w op = some w') :
    JournalRun.Tallied env w'.run := by
  cases op with
  | journal op =>
    obtain ⟨run, hr, hfollow⟩ := Option.bind_eq_some_iff.1 hs
    rw [follow_run hfollow]
    apply h.step hr
    rintro address key v rfl
    exact hok
  | refused input targetEmpty =>
    obtain rfl := Option.some.inj hs
    apply h.openFrame
    · exact fun _ _ _ hp => hp.openFrame input targetEmpty
    · rfl
    · exact JournalState.Moved.refl _
    · exact JournalState.Moved.refl _
  | destroy address target =>
    simp only [step, Option.ite_none_right_eq_some, Option.some.injEq] at hs
    rw [← hs.2]
    apply h.hooked
    · exact fun _ _ _ hp => hp
    · rfl
    · apply (JournalState.moved_selfdestruct w.run.journal address target).trans
      exact JournalState.moved_modifyAccount _ _ fun _ ha => ha
  | lastFrame success =>
    simp only [step, Option.ite_none_right_eq_some, Option.some.injEq] at hs
    rw [hs.1] at hdepth
    rw [← hs.2]
    exact tallied_lastFrame h (List.eq_nil_of_length_eq_zero hdepth.symm) success

/-- As long as every slot write is measured by the slot it goes to, the data size is
what the transaction itself takes, forty bytes for every KV update, and the logs and
the code that no failed frame took back. -/
theorem data_size_in_step (limits : EvmTxRuntimeLimits) (tx : MegaTransaction)
    (accounts : Address → JournalAccount) (accessList : List SlotKey) (ops : List EmittingOp)
    (w : EmittingRun)
    (hok : Run.Guarded (step env) (SlotsDirect env) (start env limits tx accounts accessList) ops)
    (hrun : Run.run (step env) (start env limits tx accounts accessList) ops = some w) :
    w.run.limit.dataSize.netUsage =
      110 + tx.inputLen + tx.accessListSize + 101 * tx.authorities.length +
        40 * w.run.limit.kvUpdate.netUsage + w.emitted.sum := by
  have hw : InStep (110 + tx.inputLen + tx.accessListSize + 101 * tx.authorities.length) w ∧
      JournalRun.Tallied env w.run := by
    apply Run.invariant _ _ hok hrun
    · rintro w op w' ⟨hin, ht⟩ hop hs
      exact ⟨hin.step hs, tallied_step ht hin.depth hop hs⟩
    · exact ⟨inStep_start limits tx accounts accessList,
        JournalRun.tallied_start limits tx accounts accessList⟩
  obtain ⟨⟨⟨g, hg, hslack⟩, -⟩, htallied⟩ := hw
  have htotal : g.total - level _ w.emitted = 0 := Ledger.Slack.total hslack
  have hin := FrameLimitTracker.InStep.total hg
  have hnonneg := htallied.kvUpdate_nonneg
  have hkv : w.run.limit.kvUpdate.netUsage = w.run.limit.kvUpdate.ledger.total := by
    rw [FrameLimitTracker.total_ledger] at hnonneg ⊢
    unfold FrameLimitTracker.netUsage
    omega
  apply FrameLimitTracker.netUsage_of_total
  simp only [level] at htotal
  rw [hin, ← hkv, constants.STORAGE_SLOT_WRITE_SIZE]
  omega

/-- A slot write and a log are kept, a log fails with its frame, and a frame deploys
three bytes. -/
theorem data_size_in_step_deployed :
    let env : JournalEnv := ⟨.rex4, 1, fun _ => 0, 1⟩
    let tx : MegaTransaction := ⟨1, .call 7, 0, .other, 4, 0, 0, [true], 1000000⟩
    let inputs : CallInputs := ⟨.call, 7, 9, .transfer 0, .other, 1000000⟩
    let accounts : Address → JournalAccount := fun a =>
      if a = 1 ∨ a = 7 then ⟨10, 1, .legacy, false⟩ else ⟨0, 0, .empty, false⟩
    let ops : List EmittingOp := [.journal (.call { inputs with targetAddress := 7 }),
      .journal (.sstore 7 0 5), .journal (.log 1 8), .journal (.call inputs),
      .journal (.log 2 8), .journal (.close false), .journal (.create 7 8 1 ⟨1000000⟩),
      .journal (.output true (.return ⟨.return, [1, 2, 3], .new 0⟩)), .journal (.close true),
      .journal (.close true), .lastFrame true]
    ∃ w, Run.run (step env) (start env .noLimits tx accounts []) ops = some w ∧
      w.run.limit.dataSize.netUsage = 110 + tx.inputLen + tx.accessListSize +
        101 * tx.authorities.length + 40 * w.run.limit.kvUpdate.netUsage + w.emitted.sum ∧
      w.run.limit.kvUpdate.netUsage = 5 ∧ w.emitted = [3, 40] := by
  intro env tx inputs accounts ops
  have hdirect : ∀ w op, SlotsDirect env w op := by
    intro w op
    cases op with
    | journal op =>
      cases op with
      | sstore => exact .inl rfl
      | _ => trivial
    | _ => trivial
  have hends : (Run.run (step env) (start env .noLimits tx accounts []) ops).map
      (fun w => (w.run.limit.kvUpdate.netUsage, w.emitted)) = some (5, [3, 40]) := by
    decide
  obtain ⟨w, hrun, hw⟩ := Option.map_eq_some_iff.1 hends
  rw [Prod.mk.injEq] at hw
  have hsize := data_size_in_step .noLimits tx accounts [] ops w
    (Run.Guarded.of_forall hdirect _ _) hrun
  exact ⟨w, hrun, hsize, hw⟩

/-- Three writes in a delegated account are measured by the delegate's slot, which
they leave as it is: three refunds for one write. -/
theorem data_size_drifts :
    let env : JournalEnv := ⟨.rex3, 1, fun _ => 0, 1⟩
    let tx : MegaTransaction := ⟨1, .call 7, 0, .other, 0, 0, 0, [], 1000000⟩
    let inputs : CallInputs := ⟨.call, 1, 7, .transfer 0, .other, 1000000⟩
    let accounts : Address → JournalAccount := fun a =>
      if a = 8 then ⟨0, 1, .eip7702 7, false⟩ else ⟨10, 1, .legacy, false⟩
    let ops : List EmittingOp := [.journal (.call inputs), .journal (.sstore 7 0 5),
      .journal (.call { inputs with caller := 7, targetAddress := 8 }),
      .journal (.sstore 8 0 0), .journal (.sstore 8 0 0), .journal (.sstore 8 0 0),
      .journal (.close true), .journal (.close true)]
    ∃ w, Run.run (step env) (start env .noLimits tx accounts []) ops = some w ∧
      w.run.limit.hasExceededLimit = .withinLimit ∧
      w.run.limit.kvUpdate.netUsage = 0 ∧ w.emitted = [] ∧
      ¬ w.run.limit.dataSize.netUsage = 110 + tx.inputLen + tx.accessListSize +
        101 * tx.authorities.length + 40 * w.run.limit.kvUpdate.netUsage + w.emitted.sum := by
  intro env tx inputs accounts ops
  have hends : (Run.run (step env) (start env .noLimits tx accounts []) ops).map
      (fun w => (w.run.limit.hasExceededLimit, w.run.limit.kvUpdate.netUsage, w.emitted,
        w.run.limit.dataSize.netUsage)) = some (.withinLimit, 0, [], 70) := by
    decide
  obtain ⟨w, hrun, hw⟩ := Option.map_eq_some_iff.1 hends
  simp only [Prod.mk.injEq] at hw
  obtain ⟨hwithin, hkv, hemitted, hsize⟩ := hw
  refine ⟨w, hrun, hwithin, hkv, hemitted, ?_⟩
  rw [hsize, hkv, hemitted]
  decide

end EmittingRun

end MegaEvm
