/-
  DocumentStore.Proofs.LogLines — an entry cannot pass for another one in a file.

  The line of an entry holds only printed characters, so it is one line whatever the texts of the entry are, and it
  is read as the entry's own object (`reread_toValue`): its level, and its component and message as they are but
  for halves of characters that came to stand side by side (`fileLine_reads_back`). JSON writes these like the one
  character that they are halves of, so a message of two halves is read as that character.

  Some entries have no line at all: those of a time that is not on the calendar, with a whole number of too many
  digits, or with a context nested too deep to be written (`message_of_halves_is_not_read_back`). How deep
  that is, was measured with the stack that a call leaves.
-/

import DocumentStore.Log.Entry
import DocumentStore.Proofs.JsonRoundTrip
import DocumentStore.Proofs.Named

namespace DocumentStore

open Decimal Text Json

/-! ## Times and levels -/

namespace Time

theorem printed_padded (width n : Nat) : IsPrintedText (padded width n) :=
  printedText_ofList (printed_append (printed_digits (mem_replicate_zero _)) (printed_digits (isDigits_toDigits n).digit))

/-- Three numbers with the same sign between each two, as a date and a time of day are. -/
theorem printed_parts (width a b c : Nat) {sign : String} (hsign : IsPrintedText sign) :
    IsPrintedText (padded width a ++ sign ++ padded 2 b ++ sign ++ padded 2 c) := by
  have hfirst := printedText_append (printed_padded width a) hsign
  have hsecond := printedText_append hfirst (printed_padded 2 b)
  exact printedText_append (printedText_append hsecond hsign) (printed_padded 2 c)

theorem printed_text (t : Moment) : IsPrintedText t.text := by
  have hdate : IsPrintedText t.date.text := printed_parts 4 _ _ _ (printed_of_all (by decide))
  have hclock : IsPrintedText t.clockText := printed_parts 2 _ _ _ (printed_of_all (by decide))
  have hmicro : IsPrintedText (if t.micro = 0 then "" else "." ++ padded 6 t.micro) := by
    split
    · exact printed_of_all (by decide)
    · exact printedText_append (printed_of_all (by decide)) (printed_padded 6 _)
  have hmark : IsPrintedText "T" := printed_of_all (by decide)
  have hzone : IsPrintedText "Z" := printed_of_all (by decide)
  exact printedText_append (printedText_append (printedText_append (printedText_append hdate hmark) hclock) hmicro) hzone

end Time

namespace Log

theorem printed_levelName (level : Level) : IsPrintedText level.name := by
  unfold Level.name
  iterate 6
    split
    · exact printed_of_all (by decide)
  exact printedText_append (printed_of_all (by decide)) (printedText_ofList (printed_intChars level))

namespace Entry

/-! ## The object of an entry -/

/-- The members of the object that the line of an entry is read as. -/
def members (e : Entry) (time : String) : Record :=
  [("timestamp", .text time), ("level", .text e.level.name),
    ("component", .text (joined e.componentName)), ("message", .text (joined e.message))] ++
  (if e.context.truthy then [("context", e.context.reread)] else []) ++
  (if e.origined then [("source", (originValue e.origin).reread)] else []) ++
  match e.trouble with
  | some t => [("exception", t.toValue.reread)]
  | none => []

def memberNames : List String := ["timestamp", "level", "component", "message", "context", "source", "exception"]

theorem names_members (e : Entry) (time : String) : (Keyed.names (e.members time)).Sublist memberNames := by
  have hcontext : (Keyed.names (if e.context.truthy then [("context", e.context.reread)] else [])).Sublist
      ["context"] := by
    split
    · exact List.Sublist.refl _
    · exact List.nil_sublist _
  have hsource : (Keyed.names (if e.origined then [("source", (originValue e.origin).reread)] else [])).Sublist
      ["source"] := by
    split
    · exact List.Sublist.refl _
    · exact List.nil_sublist _
  have htrouble (t : Option Trouble) : (Keyed.names (match t with
      | some t => [("exception", t.toValue.reread)]
      | none => [])).Sublist ["exception"] := by
    cases t with
    | none => exact List.nil_sublist _
    | some t => exact List.Sublist.refl _
  have hfront := List.Sublist.refl ["timestamp", "level", "component", "message"]
  unfold members
  simp only [Keyed.names, List.map_append]
  exact ((hfront.append hcontext).append hsource).append (htrouble e.trouble)

/-- No name stands twice. -/
theorem nodup_members (e : Entry) (time : String) : (Keyed.names (e.members time)).Nodup :=
  (names_members e time).nodup (by decide)

theorem reread_toValue (e : Entry) {time : String} (htime : IsPrintedText time) :
    (e.toValue time).reread = .object (e.members time) := by
  have hname (n : String) (hn : n ∈ memberNames) : joined n = n := by
    have hall : ∀ n ∈ memberNames, n.toList.all (fun c => decide (IsPrinted c)) = true := by decide
    exact joined_of_printed (printed_of_all (hall n hn))
  have hmembers (ms : Record) (hms : e.toValue time = .object ms) : Value.rereadMembers ms = e.members time := by
    cases hms
    rw [rereadMembers_eq_map, members]
    simp only [List.map_append, List.map_cons, List.map_nil, Value.reread, joined_of_printed htime,
      joined_of_printed (printed_levelName e.level), hname "timestamp" (by decide), hname "level" (by decide),
      hname "component" (by decide), hname "message" (by decide)]
    refine congrArg₂ _ (congrArg₂ _ (congrArg _ ?_) ?_) ?_
    · split
      · rw [List.map_cons, hname "context" (by decide), List.map_nil]
      · rfl
    · split
      · rw [List.map_cons, hname "source" (by decide), List.map_nil]
      · rfl
    · cases e.trouble with
      | none => rfl
      | some t => rw [List.map_cons, hname "exception" (by decide), List.map_nil]
  unfold toValue
  rw [Value.reread, hmembers _ rfl, Keyed.ofList_of_nodup (nodup_members e time)]

/-! ## The line of an entry -/

/-- What an entry has to be like for its line to be written and read. -/
structure Legible (e : Entry) : Prop where
  /-- The time is in one of the years that the calendar has. -/
  onCalendar : 1 ≤ (Time.dateOf (e.time / Time.microsPerDay)).year ∧ (Time.dateOf (e.time / Time.microsPerDay)).year ≤ 9999
  /-- No whole number in it has too many digits. -/
  spellable : e.context.isSpellable = true
  spellableLine : e.origined = true → isLong e.origin.line = false
  /-- The context stands in an object, so it has one list or object less of the room that was measured. -/
  shallow : e.context.depth < maxNesting

/-- A member of the object is a text, the context, or an object of texts and the number of a line. -/
theorem forall_members {P : Value → Prop} (e : Entry) (time : String) (htext : ∀ s, P (.text s)) (hcontext : P e.context)
    (horigin : e.origined = true → P (originValue e.origin)) (htrouble : ∀ t : Trouble, P t.toValue) :
    ∃ ms, e.toValue time = .object ms ∧ ∀ m ∈ ms, P m.2 := by
  refine ⟨_, rfl, ?_⟩
  simp only [List.forall_mem_append, List.forall_mem_cons]
  refine ⟨⟨⟨⟨htext _, htext _, htext _, htext _, fun m hm => absurd hm List.not_mem_nil⟩, ?_⟩, ?_⟩, ?_⟩
  · split
    · exact List.forall_mem_singleton.mpr hcontext
    · exact fun m hm => absurd hm List.not_mem_nil
  · split
    · rename_i ho
      exact List.forall_mem_singleton.mpr (horigin ho)
    · exact fun m hm => absurd hm List.not_mem_nil
  · split
    · exact List.forall_mem_singleton.mpr (htrouble _)
    · exact fun m hm => absurd hm List.not_mem_nil

theorem Legible.depth_le {e : Entry} (h : e.Legible) (time : String) : (e.toValue time).depth ≤ maxNesting := by
  obtain ⟨ms, hms, hall⟩ := forall_members (P := fun v => v.depth ≤ 979) e time (fun s => Nat.zero_le _)
    (Nat.le_of_lt_succ h.shallow) (fun _ => show 1 ≤ 979 by decide) fun _ => show 1 ≤ 979 by decide
  rw [hms, Value.depth]
  exact Nat.succ_le_succ (depthMembers_le_iff.mpr hall)

theorem isSpellable_originValue {o : Origin} (h : isLong o.line = false) : (originValue o).isSpellable = true := by
  have hline : (Value.int o.line).isSpellable = true := by rw [isSpellable_int, h, Bool.not_false]
  refine isSpellable_object_iff.mpr ?_
  simp only [List.forall_mem_cons]
  exact ⟨rfl, hline, rfl, fun m hm => absurd hm List.not_mem_nil⟩

theorem isSpellable_toValue {e : Entry} (hcontext : e.context.isSpellable = true)
    (hline : e.origined = true → isLong e.origin.line = false) (time : String) :
    (e.toValue time).isSpellable = true := by
  obtain ⟨ms, hms, hall⟩ := forall_members (P := fun v => v.isSpellable = true) e time (fun _ => rfl) hcontext
    (fun ho => isSpellable_originValue (hline ho)) fun _ => rfl
  rw [hms]
  exact isSpellable_object_iff.mpr hall

/-- A context that is not empty is a member of the object. -/
theorem exists_context {e : Entry} (h : e.context.truthy = true) (time : String) :
    ∃ ms, e.toValue time = .object ms ∧ ("context", e.context) ∈ ms := by
  refine ⟨_, rfl, ?_⟩
  rw [if_pos h]
  exact List.mem_append_left _ (List.mem_append_left _ (List.mem_append_right _ List.mem_cons_self))

theorem fileLine_eq {e : Entry} {t : Time.Moment} (htime : Time.momentOf e.time = .ok t) :
    e.fileLine = Json.writeOut (e.toValue t.text) := by
  rw [fileLine, htime]

theorem Legible.exists_moment {e : Entry} (h : e.Legible) : ∃ t, Time.momentOf e.time = .ok t := by
  unfold Time.momentOf
  dsimp only
  rw [if_pos h.onCalendar]
  exact ⟨_, rfl⟩

/-- The line of an entry is the JSON of its object, and is read as the members of that. -/
theorem Legible.exists_line {e : Entry} (h : e.Legible) :
    ∃ t, Time.momentOf e.time = .ok t ∧ e.fileLine = .ok (Json.write (e.toValue t.text)) ∧
      Json.read (Json.write (e.toValue t.text)) = .ok (.object (e.members t.text)) := by
  obtain ⟨t, htime⟩ := h.exists_moment
  have hshort := isSpellable_toValue h.spellable h.spellableLine t.text
  refine ⟨t, htime, by rw [fileLine_eq htime, writeOut_of_isSpellable hshort, if_pos (h.depth_le t.text)], ?_⟩
  exact (read_write_iff hshort).mpr ⟨h.depth_le t.text, (reread_toValue e (Time.printed_text t)).symm⟩

/-- Whatever texts an entry has, its line is one line of printed characters, and is read as one object whose members
are those of the entry. The level is read as it is, and so are component and message if no half of a
character comes right before the half that belongs to it. -/
theorem fileLine_reads_back {e : Entry} (h : e.Legible) :
    ∃ t line, Time.momentOf e.time = .ok t ∧ e.fileLine = .ok line ∧
      (∀ c ∈ line.toList, ' ' ≤ c ∧ c ≤ '~') ∧ Text.splitAt '\n' line.toList = [line.toList] ∧
      Json.read line = .ok (.object (e.members t.text)) ∧
      (e.members t.text).get? "level" = some (.text e.level.name) ∧
      (e.members t.text).get? "component" = some (.text (joined e.componentName)) ∧
      (e.members t.text).get? "message" = some (.text (joined e.message)) ∧
      (joined e.componentName = e.componentName ↔ NoPairs e.componentName.toList) ∧
      (joined e.message = e.message ↔ NoPairs e.message.toList) := by
  obtain ⟨t, htime, hline, hread⟩ := h.exists_line
  have hprinted : ∀ c ∈ (Json.write (e.toValue t.text)).toList, IsPrinted c := by
    rw [Json.write, String.toList_ofList]
    exact printed_writeChars _
  refine ⟨t, _, htime, hline, hprinted, splitAt_printed hprinted, hread, ?_, ?_, ?_,
    joined_eq_self_iff, joined_eq_self_iff⟩ <;> rfl

/-! ## Some entries -/

/-- A warning whose texts would end the line and the message if they stood in the file as they are. -/
def nightlyWarning : Entry :=
  ⟨86399000001, Level.warning, some "Night Shift", "late\n\", \"level\": \"INFO\" é😀",
    .object [("path", .text "data\r\n"), ("tries", .list [.int (-3), .bool true])],
    ⟨"/src/mod.py", 12, "run"⟩, some ⟨"KeyError", "b\t1"⟩⟩

theorem legible_nightlyWarning : nightlyWarning.Legible where
  onCalendar := by decide
  spellable := by decide +kernel
  spellableLine _ := by decide +kernel
  shallow := by decide

theorem fileLine_reads_back_nightly :
    nightlyWarning.Legible ∧ ∃ (line : String) (members : Record), nightlyWarning.fileLine = .ok line ∧
      Text.splitAt '\n' line.toList = [line.toList] ∧ Json.read line = .ok (.object members) ∧
      members.get? "level" = some (.text "WARNING") ∧ members.get? "component" = some (.text "Night Shift") ∧
      members.get? "message" = some (.text nightlyWarning.message) := by
  refine ⟨legible_nightlyWarning, ?_⟩
  obtain ⟨t, line, -, hline, -, hone, hread, hlevel, hcomponent, hmessage, hsame, hsame'⟩ :=
    fileLine_reads_back legible_nightlyWarning
  rw [hsame.mpr (by decide +kernel)] at hcomponent
  rw [hsame'.mpr (by decide +kernel)] at hmessage
  exact ⟨line, _, hline, hone, hread, hlevel, hcomponent, hmessage⟩

/-- The first and the second half of one character. -/
def firstHalf : String := String.ofList [charOfCode 0xd83d]

def secondHalf : String := String.ofList [charOfCode 0xde00]

def halvesEntry : Entry :=
  ⟨0, Level.info, none, firstHalf ++ secondHalf, .object [], ⟨"/src/mod.py", 1, "fn"⟩, none⟩

def nested : Nat → Value
  | 0 => .list []
  | n + 1 => .list [nested n]

theorem depth_nested (n : Nat) : (nested n).depth = n + 1 := by
  induction n with
  | zero => rfl
  | succ n ih => rw [nested, Value.depth, Value.depthItems, ih, Value.depthItems, Nat.max_zero]

theorem isSpellable_nested (n : Nat) : (nested n).isSpellable = true := by
  induction n with
  | zero => rfl
  | succ n ih => exact (isSpellable_list _ _).mpr ⟨ih, rfl⟩

def noting (v : Value) : Entry := { halvesEntry with context := .object [("n", v)] }

theorem fileLine_noting (v : Value) : ∃ time, (noting v).fileLine = Json.writeOut ((noting v).toValue time) := by
  obtain ⟨t, htime⟩ : ∃ t, Time.momentOf 0 = .ok t := ⟨_, rfl⟩
  exact ⟨t.text, fileLine_eq htime⟩

theorem fileLine_long {n : Int} (hlong : isLong n = true) : (noting (.int n)).fileLine = .error (.value .tooLong) := by
  obtain ⟨time, hline⟩ := fileLine_noting (.int n)
  have hentry : ((noting (.int n)).toValue time).unwritable? = some .long := by
    simp [noting, halvesEntry, toValue, origined, Value.truthy, Value.unwritable?, Draft.ofValue, Draft.ofMembers,
      Draft.unwritable?, Draft.unwritableMember?, Key.unwritable?, hlong, maxNesting]
  rw [hline, Json.writeOut, hentry]
  rfl

/-- The context is an object in the object of the entry. -/
theorem fileLine_deep {v : Value} (hshort : v.isSpellable = true) (hdeep : maxNesting ≤ v.depth + 1) :
    (noting v).fileLine = .error (.nesting .json) := by
  obtain ⟨time, hline⟩ := fileLine_noting v
  have hcontext : (noting v).context.isSpellable = true := (isSpellable_object "n" v []).mpr ⟨hshort, rfl⟩
  have hentry := isSpellable_toValue hcontext (fun ho => absurd ho Bool.false_ne_true) time
  rw [hline, writeOut_of_isSpellable hentry, if_neg]
  intro hdepth
  obtain ⟨ms, hms, hmem⟩ := exists_context (e := noting v) rfl time
  rw [hms, Value.depth] at hdepth
  have hfits : (Value.object [("n", v)]).depth ≤ 979 := depthMembers_le_iff.mp (Nat.le_of_succ_le_succ hdepth) _ hmem
  rw [Value.depth, Value.depthMembers, Value.depthMembers, Nat.max_zero] at hfits
  exact absurd (Nat.le_trans hdeep hfits) (by decide)

/-- A message of two halves is read as the character that they are halves of. A time beyond the calendar, a number of
too many digits and a context that is nested too deep have no line. -/
theorem message_of_halves_is_not_read_back :
    Log.message "%s%s" [.text firstHalf, .text secondHalf] = .ok halvesEntry.message ∧
    (∃ (line : String) (members : Record), halvesEntry.fileLine = .ok line ∧
      Json.read line = .ok (.object members) ∧ members.get? "message" = some (.text "😀") ∧
      halvesEntry.message ≠ "😀") ∧
    (∃ f, { halvesEntry with time := 10 ^ 20 }.fileLine = .error f) ∧
    (noting (.int (tenTo maxDigits))).fileLine = .error (.value .tooLong) ∧
    (noting (nested 978)).fileLine = .error (.nesting .json) := by
  refine ⟨rfl, ?_, ⟨_, rfl⟩, fileLine_long ?_, fileLine_deep (isSpellable_nested 978) ?_⟩
  · have hlegible : halvesEntry.Legible :=
      ⟨by decide, by decide +kernel, fun ho => absurd ho (by decide), by decide⟩
    have hjoined : joined halvesEntry.message = "😀" := by decide +kernel
    obtain ⟨t, -, hline, hread⟩ := hlegible.exists_line
    exact ⟨_, _, hline, hread, congrArg (fun s => some (Value.text s)) hjoined, by decide +kernel⟩
  · rw [isLong, Int.natAbs_natCast, decide_eq_true (Nat.le_refl _)]
  · rw [depth_nested]
    decide

end Entry

end Log

end DocumentStore
