import SchemaNaming.Proofs.LogHistory
import SchemaNaming.Proofs.Separator

namespace SchemaNaming

/-!
# What a printed log says

The name that was asked for stands in the message of a rename as it came, apostrophes and all, even
if it looks like the rest of the message.  Yet the message can be read in one way only: the kind ends
at the first apostrophe, and the new name begins after the last but one.  In the output of a flush
each message has a line of its own, so the whole log can be read off.

* `Rename.Unquoted` — the kind and the new name have no apostrophe;
* `Rename.Readable` — and no part has a newline;
* `Rename.eq_of_message_eq` — the message tells the rename;
* `Rename.eq_of_render_append_eq` — the first line of an output tells the first rename;
* `Rename.eq_of_renderAll_warnings_eq` — all lines tell all renames;
* `Session.flushed_output_tells_renames` — the output of a flush tells what was in the log.
-/

namespace CodePoint

/-- The mark around a name in the message of a rename. -/
def apostrophe : CodePoint := ofChar '\x27'

/-- The end of a line. -/
def newline : CodePoint := ofChar '\n'

end CodePoint

open CodePoint (apostrophe newline)

/-! ### One rename -/

namespace Rename

/-- The kind and the new name have no apostrophe.  The name that was asked for may have some. -/
structure Unquoted (r : Rename) : Prop where
  kind : apostrophe ∉ r.kind
  after : apostrophe ∉ r.after

/-- The rename can be read off its line in the output: no part of it has a newline either. -/
structure Readable (r : Rename) : Prop extends r.Unquoted where
  oneLine : ∀ t ∈ [r.kind, r.before, r.after], newline ∉ t

instance (r : Rename) : Decidable r.Unquoted :=
  decidable_of_iff (apostrophe ∉ r.kind ∧ apostrophe ∉ r.after)
    ⟨fun h => ⟨h.1, h.2⟩, fun h => ⟨h.kind, h.after⟩⟩

instance (r : Rename) : Decidable r.Readable :=
  decidable_of_iff (r.Unquoted ∧ ∀ t ∈ [r.kind, r.before, r.after], newline ∉ t)
    ⟨fun h => ⟨h.1, h.2⟩, fun h => ⟨h.toUnquoted, h.oneLine⟩⟩

/-- What stands between the two names, up to the mark before the new one. -/
def clause : Text := "' 与已有名称或关键字冲突，已改名为 "

/-- The message between its first apostrophe and its last one. -/
def quotedPart (r : Rename) : Text := (r.before ++ clause) ++ apostrophe :: r.after

/-- The message, taken apart at its outer apostrophes. -/
theorem message_eq (r : Rename) :
    r.message = (r.kind ++ " ") ++ apostrophe :: (r.quotedPart ++ "'") := by
  have hopen : (" '" : Text) = " " ++ [apostrophe] := by decide +kernel
  have hclause : ("' 与已有名称或关键字冲突，已改名为 '" : Text) = clause ++ [apostrophe] := by
    simp [Text.ofString, clause, apostrophe]
  unfold message quotedPart
  rw [hopen, hclause]
  simp

variable {r r' : Rename}

/-- **One way to read a message.**  It tells the rename. -/
theorem eq_of_message_eq (hr : r.Unquoted) (hr' : r'.Unquoted) (h : r.message = r'.message) :
    r = r' := by
  rw [message_eq, message_eq] at h
  have hblank : ∀ {t : Text}, apostrophe ∉ t → apostrophe ∉ t ++ " " := by
    intro t ht hmem
    exact (List.mem_append.mp hmem).elim ht (by decide)
  -- from the front, the kind ends at the first apostrophe
  obtain ⟨hkind, hquoted⟩ := append_cons_inj_of_notMem_left (hblank hr.kind) (hblank hr'.kind) h
  -- from the back, the new name begins after the last apostrophe that is left
  obtain ⟨hbefore, hafter⟩ := append_cons_inj_of_notMem_right hr.after hr'.after
    (List.append_cancel_right hquoted)
  cases r
  cases r'
  rw [mk.injEq]
  exact ⟨List.append_cancel_right hkind, List.append_cancel_right hbefore, hafter⟩

/-- An apostrophe in the new name could move the border between the names. -/
example : message ⟨"k", "x", "y" ++ clause ++ "'z"⟩ = message ⟨"k", "x" ++ clause ++ "'y", "z"⟩ := by
  cbv

/-- The report of a readable rename is a single line. -/
theorem newline_not_mem_message (hr : r.Readable) : newline ∉ r.message := by
  have hfixed : ∀ t ∈ ([" '", "' 与已有名称或关键字冲突，已改名为 '", "'"] : List Text), newline ∉ t := by
    decide +kernel
  have hparts := hr.oneLine
  simp only [List.forall_mem_cons] at hfixed hparts
  simp [message, hfixed, hparts]

end Rename

/-! ### One line after the other -/

namespace Message

/-- The printed form of a message, without the end of its line. -/
def line : Message → Text
  | .info t => t
  | .warning t => yellow ++ "[Warn] " ++ t ++ reset

/-- A message is printed as a line with its end. -/
theorem render_eq (m : Message) : m.render = m.line ++ [newline] := by
  cases m <;> rfl

/-- Every message prints something. -/
@[simp] theorem renderAll_eq_nil_iff (messages : List Message) :
    renderAll messages = [] ↔ messages = [] := by
  cases messages <;> simp [render_eq]

/-- The colours of a warning break no line. -/
theorem newline_not_mem_line_warning {t : Text} (ht : newline ∉ t) : newline ∉ (warning t).line := by
  have hfixed : ∀ u ∈ ([yellow, "[Warn] ", reset] : List Text), newline ∉ u := by decide +kernel
  simp only [List.forall_mem_cons] at hfixed
  simp [line, hfixed, ht]

/-- **One line.**  A message on a line of its own can be told from what is printed after it. -/
theorem render_append_inj {m m' : Message} {rest rest' : Text} (hm : newline ∉ m.line)
    (hm' : newline ∉ m'.line) (h : m.render ++ rest = m'.render ++ rest') :
    m.line = m'.line ∧ rest = rest' := by
  rw [render_eq, render_eq, List.append_assoc, List.append_assoc] at h
  exact append_cons_inj_of_notMem_left hm hm' h

end Message

namespace Rename

/-- The warnings about some renames. -/
def warnings (batch : List Rename) : List Message := batch.map fun r => .warning r.message

variable {r r' : Rename} {batch batch' : List Rename}

/-- The first line tells the first rename, and where the other lines begin. -/
theorem eq_of_render_append_eq {rest rest' : Text} (hr : r.Readable) (hr' : r'.Readable)
    (h : (Message.warning r.message).render ++ rest =
      (Message.warning r'.message).render ++ rest') : r = r' ∧ rest = rest' := by
  obtain ⟨hline, hrest⟩ := Message.render_append_inj
    (Message.newline_not_mem_line_warning (newline_not_mem_message hr))
    (Message.newline_not_mem_line_warning (newline_not_mem_message hr')) h
  have hmessage : r.message = r'.message :=
    List.append_cancel_left (List.append_cancel_right hline)
  exact ⟨eq_of_message_eq hr.toUnquoted hr'.toUnquoted hmessage, hrest⟩

/-- **All lines.**  The warnings about a batch tell its renames, in order. -/
theorem eq_of_renderAll_warnings_eq (hbatch : ∀ r ∈ batch, r.Readable)
    (hbatch' : ∀ r ∈ batch', r.Readable)
    (h : Message.renderAll (warnings batch) = Message.renderAll (warnings batch')) :
    batch = batch' := by
  induction batch generalizing batch' with
  | nil =>
    -- a second batch would have a first line
    have hnone : warnings batch' = [] := (Message.renderAll_eq_nil_iff _).mp h.symm
    exact (List.map_eq_nil_iff.mp hnone).symm
  | cons r rest ih =>
    cases batch' with
    | nil => exact absurd ((Message.renderAll_eq_nil_iff _).mp h) (List.cons_ne_nil _ _)
    | cons r' rest' =>
      rw [List.forall_mem_cons] at hbatch hbatch'
      obtain ⟨rfl, hlines⟩ := eq_of_render_append_eq hbatch.1 hbatch'.1 h
      rw [ih hbatch.2 hbatch'.2 hlines]

end Rename

/-! ### The output of a flush -/

namespace Session

variable (s : Session)

/-- What a flush of a log puts out. -/
def flushOutput (id : String) (header : Option Text) : Text :=
  Message.renderAll (s.step (.flush id header)).2.printed

/-- Only an empty log puts out nothing. -/
theorem flushOutput_eq_nil_iff (id : String) (header : Option Text) :
    s.flushOutput id header = [] ↔ (s.log id).pending = [] := by
  show Message.renderAll ((s.log id).messages header) = [] ↔ _
  rw [Message.renderAll_eq_nil_iff, RenameLog.messages_eq_nil_iff, RenameLog.size,
    List.length_eq_zero_iff]

/-- The header has a line of its own, and so has each rename. -/
theorem flushOutput_of_ne_nil {id : String} (header : Option Text) (h : (s.log id).pending ≠ []) :
    s.flushOutput id header = (Message.info (shownHeader header)).render ++
      Message.renderAll (Rename.warnings (s.log id).pending) := by
  unfold flushOutput
  rw [(s.flushed_step id header).1.printed h]
  rfl

/-- **The output of a flush tells what was in the log.**  The message of a rename tells the rename,
    if the kind and the new name have no apostrophe.  If this holds for all renames in two logs and
    they have no newline either, then the logs put out the same under the same header only if they
    hold the same renames in the same order.  This is so for all headers, and also if one of the
    logs is empty. -/
theorem flushed_output_tells_renames :
    (∀ r r' : Rename, r.Unquoted → r'.Unquoted → r.message = r'.message → r = r') ∧
    ∀ (s s' : Session) (id id' : String) (header : Option Text),
      (∀ r ∈ (s.log id).pending, r.Readable) → (∀ r ∈ (s'.log id').pending, r.Readable) →
      s.flushOutput id header = s'.flushOutput id' header →
        (s.log id).pending = (s'.log id').pending := by
  refine ⟨fun r r' hr hr' h => Rename.eq_of_message_eq hr hr' h,
    fun s s' id id' header hread hread' h => ?_⟩
  -- the same output is none for both, or for neither
  have hempty : (s.log id).pending = [] ↔ (s'.log id').pending = [] := by
    rw [← s.flushOutput_eq_nil_iff id header, h, flushOutput_eq_nil_iff]
  by_cases hnone : (s.log id).pending = []
  · rw [hnone, hempty.mp hnone]
  · have hsome : (s'.log id').pending ≠ [] := mt hempty.mpr hnone
    rw [s.flushOutput_of_ne_nil header hnone, s'.flushOutput_of_ne_nil header hsome] at h
    exact Rename.eq_of_renderAll_warnings_eq hread hread' (List.append_cancel_left h)

/-- A type is asked for as `list'`, and another rename comes from a name that looks like a message of
    its own.  It makes no difference to the output whether the two were recorded or came with a name,
    and the log can be read off it. -/
theorem flushed_output_tells_lookalike :
    let lookalike : Rename := ⟨"k", "x' 与已有名称或关键字冲突，已改名为 'y", "z"⟩
    let s := (({} : Session).run [.newLog "L",
      .name .typeName { raw := .text "list'", log := some "L" }, .record "L" lookalike]).1
    let s' := (({} : Session).run [.newLog "M", .record "M" ⟨"类型", "list'", "listCustom"⟩,
      .report lookalike (some "M")]).1
    (s.flushOutput "L" (some "== Service ==") = s'.flushOutput "M" (some "== Service ==") ∧
      (s.log "L").pending = (s'.log "M").pending ∧ (s.log "L").size = 2) ∧
    lookalike.message ≠ Rename.message ⟨"k", "x", "z"⟩ := by
  intro lookalike s s'
  obtain ⟨hone, hlogs⟩ := flushed_output_tells_renames
  have hread : ∀ r ∈ (s.log "L").pending, r.Readable := by decide +kernel
  have hread' : ∀ r ∈ (s'.log "M").pending, r.Readable := by decide +kernel
  have houtput : s.flushOutput "L" (some "== Service ==") =
      s'.flushOutput "M" (some "== Service ==") := by decide +kernel
  refine ⟨⟨houtput, hlogs s s' "L" "M" _ hread hread' houtput, by decide +kernel⟩, fun h => ?_⟩
  have heq : lookalike = ⟨"k", "x", "z"⟩ := hone _ _ (by decide +kernel) (by decide +kernel) h
  exact absurd heq (by decide +kernel)

end Session

end SchemaNaming
