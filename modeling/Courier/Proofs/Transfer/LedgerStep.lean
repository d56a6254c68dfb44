import Courier.Transfer.Ledger

/-!
# Steps of a ledger

Everything that one operation can do to a table, said once.  A sound table stays as it is,
gets a record under a key that was free, has the record under a key replaced within the
rules of an update, or loses the record under a key.

Main definitions:

- `Ledger.Op.fault?` is the error in an answer and `Ledger.Op.subject?` the key that an
  operation is about.
- `Ledger.Replaces` says that an update may replace one record by another.
- `Ledger.Step` relates a table, an operation, its answer and the table after it.

Main statements:

- A table made of any records is sound (`sound_ofRecords`), and one made of records in
  order has just these (`records_ofRecords`).
- An operation on a sound table is a step (`step_perform`) and leaves it sound
  (`Step.sound`).
- What a step leaves alone: all records when the answer is an error (`Step.eq_of_fault`),
  the records under other keys (`Step.find?_of_ne`), and a record that is done
  (`Step.find?_done`).
-/

namespace Courier

namespace Ledger

variable {l l' : Ledger} {r : Record} {key : Record.Key}

/-! ## Members -/

theorem mem_of_find? (h : l.find? key = some r) : r ∈ l.records :=
  List.mem_of_find?_eq_some h

/-- A record is found under its own key. -/
theorem key_of_find? (h : l.find? key = some r) : r.key = key := by
  have hkey := List.find?_some h
  simpa using hkey

/-- A member of a table in order is found under its key. -/
theorem find?_of_mem (h : Ordered.Ascending before l.records) (hr : r ∈ l.records) :
    l.find? r.key = some r := by
  unfold find?
  induction hrecords : l.records generalizing l with
  | nil => simp [hrecords] at hr
  | cons b rest ih =>
      rw [hrecords] at h hr
      have hb := (List.pairwise_cons.1 h).1
      rcases List.mem_cons.1 hr with rfl | hrest
      · simp
      · have hne : (b.key == r.key) = false := by
          rw [beq_eq_false_iff_ne]
          intro hkey
          have hbefore := hb r hrest
          simp [before, hkey, Record.Key.precedes_irrefl] at hbefore
        rw [List.find?_cons, hne]
        exact ih (l := ⟨rest, l.nextId⟩) (List.pairwise_cons.1 h).2 hrest rfl

/-- Nothing is found under a key with the next number. -/
theorem Sound.find?_freshId (h : l.Sound) (hkey : key.specialId = l.freshId) :
    l.find? key = none := by
  cases hfound : l.find? key with
  | none => rfl
  | some r =>
      have hbelow := h.below r (mem_of_find? hfound)
      rw [Record.specialId, key_of_find? hfound, hkey] at hbelow
      omega

/-- Nothing is taken out under a key that has no record. -/
theorem erase_of_find?_eq_none (h : l.find? key = none) : l.erase key = l := by
  have hall : ∀ r ∈ l.records, (r.key != key) = true := by
    intro r hr
    have hne := List.find?_eq_none.1 h r hr
    simpa using hne
  have hrecords := List.filter_eq_self.2 hall
  simp only [erase, hrecords]

/-! ## Tables of records -/

/-- To put records in takes no number. -/
theorem nextId_foldl_put (records : List Record) (l : Ledger) :
    (records.foldl put l).nextId = l.nextId := by
  induction records generalizing l with
  | nil => rfl
  | cons r records ih => exact ih (l.put r)

theorem ascending_foldl_put (records : List Record)
    (h : Ordered.Ascending before l.records) :
    Ordered.Ascending before (records.foldl put l).records := by
  induction records generalizing l with
  | nil => exact h
  | cons r records ih => exact ih (ascending_put h r)

/-- The members after filing records one after the other are among them or were there. -/
theorem mem_foldl_put {records : List Record} (h : r ∈ (records.foldl put l).records) :
    r ∈ records ∨ r ∈ l.records := by
  induction records generalizing l with
  | nil => exact Or.inr h
  | cons s records ih =>
      rcases ih h with hrecords | hput
      · exact Or.inl (List.mem_cons_of_mem s hrecords)
      · rcases Ordered.mem_put hput with rfl | hl
        · exact Or.inl List.mem_cons_self
        · exact Or.inr hl

/-- The next number of a table made of records is above all of theirs. -/
theorem specialId_lt_nextId_ofRecords {records : List Record} (h : r ∈ records) :
    r.specialId < (ofRecords records).nextId := by
  have hid : r.specialId ∈ records.map Record.specialId := List.mem_map_of_mem h
  rw [ofRecords, nextId_foldl_put]
  cases hids : records.map Record.specialId with
  | nil => simp [hids] at hid
  | cons id ids =>
      rw [hids] at hid
      have hle : r.specialId ≤ ids.foldl max id := List.le_max_of_mem hid
      simp only
      omega

theorem mem_of_mem_ofRecords {records : List Record} (h : r ∈ (ofRecords records).records) :
    r ∈ records := by
  rcases mem_foldl_put h with hmem | hempty
  · exact hmem
  · simp at hempty

/-- A table that is built from records is sound, whatever they are. -/
theorem sound_ofRecords (records : List Record) : (ofRecords records).Sound := by
  refine ⟨ascending_foldl_put records List.Pairwise.nil, ?_⟩
  intro r hr
  have hlt := specialId_lt_nextId_ofRecords (mem_of_mem_ofRecords hr)
  unfold freshId
  omega

theorem before_asymm {r s : Record} (h : before r s = true) : before s r = false := by
  cases hback : before s r with
  | false => rfl
  | true =>
      have hself := Record.Key.precedes_trans h hback
      simp [Record.Key.precedes_irrefl] at hself

/-- Filing records in order one after the other puts them at the end. -/
theorem records_foldl_put {records : List Record} (l : Ledger)
    (h : Ordered.Ascending before (l.records ++ records)) :
    (records.foldl put l).records = l.records ++ records := by
  induction records generalizing l with
  | nil => simp
  | cons r records ih =>
      have hlast : ∀ s ∈ l.records, before s r = true := by
        intro s hs
        exact (List.pairwise_append.1 h).2.2 s hs r List.mem_cons_self
      have hput : (l.put r).records = l.records ++ [r] := Ordered.put_eq_append before_asymm hlast
      have hrest := ih (l.put r)
      rw [hput, List.append_assoc] at hrest
      exact hrest h

/-- A table made of records in order has just these records. -/
theorem records_ofRecords {records : List Record} (h : Ordered.Ascending before records) :
    (ofRecords records).records = records := by
  exact records_foldl_put ⟨[], _⟩ h

/-! ## Steps -/

namespace Op

/-- The error in the answer to an operation. -/
def fault? : (op : Op) → op.Answer → Option TransferFault
  | .create _ _, .error fault => some fault
  | .insert _, .error fault => some fault
  | .update _, .error fault => some fault
  | .delete _, .error fault => some fault
  | .mark _ _ _ _, .error fault => some fault
  | _, _ => none

/-- The key of the record that an operation is about.  That of a new transfer is in the
answer. -/
def subject? : (op : Op) → op.Answer → Option Record.Key
  | .create _ _, .ok r => some r.key
  | .create _ _, .error _ => none
  | .insert r, _ => some r.key
  | .load key, _ => some key
  | .update r, _ => some r.key
  | .delete key, _ => some key
  | .mark key _ _ _, _ => some key
  | .list, _ => none

end Op

/-- Whether an update may replace a record by another one. -/
structure Replaces (stored r : Record) : Prop where
  done : stored.status = .done → stored = r
  rank : stored.status = .running → r.status = .running → stored.rank ≤ r.rank

/-- What an operation does to a table. -/
inductive Step (l : Ledger) : (op : Op) → op.Answer → Ledger → Prop where
  | kept {op : Op} {answer : op.Answer} : Step l op answer l
  | entered {op : Op} {answer : op.Answer} {r : Record} {next : Int}
      (free : l.find? r.key = none) (grows : l.freshId ≤ max next 1)
      (below : r.specialId < max next 1) (accepted : op.fault? answer = none)
      (subject : op.subject? answer = some r.key) :
      Step l op answer { l.put r with nextId := next }
  | replaced {op : Op} {answer : op.Answer} {stored r : Record}
      (found : l.find? r.key = some stored) (replaces : Replaces stored r)
      (accepted : op.fault? answer = none) (subject : op.subject? answer = some r.key) :
      Step l op answer (l.put r)
  | taken (key : Record.Key) : Step l (.delete key) (.ok (l.find? key).isSome) (l.erase key)

/-- What an accepted update has found and done. -/
theorem update_eq_ok (h : l.update r = .ok l') :
    ∃ stored, l.find? r.key = some stored ∧ Replaces stored r ∧ l' = l.put r := by
  unfold update at h
  split at h
  · simp at h
  · next stored hfound =>
      split at h
      · simp at h
      · next hdone =>
          split at h
          · simp at h
          · next hrank =>
              refine ⟨stored, hfound, ⟨?_, ?_⟩, by simpa using h.symm⟩
              · intro hstatus
                by_cases heq : stored = r
                · exact heq
                · exact absurd ⟨by simp [Record.isAllDone, hstatus], heq⟩ hdone
              · intro hstored hr
                by_cases hlt : r.rank < stored.rank
                · exact absurd ⟨hstored, hr, hlt⟩ hrank
                · exact Nat.not_lt.1 hlt

/-- An update within the rules is accepted. -/
theorem perform_update {stored : Record} (hfound : l.find? r.key = some stored)
    (h : Replaces stored r) : l.perform (.update r) = (.ok (), l.put r) := by
  have hdone : ¬ ((stored.isAllDone : Prop) ∧ stored ≠ r) := by
    rintro ⟨hstatus, hne⟩
    exact hne (h.done (by simpa [Record.isAllDone] using hstatus))
  have hrank : ¬ (stored.status = .running ∧ r.status = .running ∧ r.rank < stored.rank) := by
    rintro ⟨hstored, hr, hlt⟩
    exact absurd (h.rank hstored hr) (Nat.not_le.2 hlt)
  simp only [perform, update, hfound, if_neg hdone, if_neg hrank]

/-- An accepted entry has found the key free. -/
theorem insert_eq_ok (h : l.insert r = .ok l') :
    l.find? r.key = none ∧
      l' = { l.put r with nextId := max l.nextId (r.specialId + 1) } := by
  unfold insert at h
  split at h
  · simp at h
  · next hfree => exact ⟨hfree, by simpa using h.symm⟩

/-- An accepted change of status is an accepted update with the changed record. -/
theorem mark_eq_ok {status : Status} {code : ResultCode} {now : Calendar.Moment}
    (h : l.mark key status code now = .ok (r, l')) :
    ∃ stored, l.find? key = some stored ∧ r = stored.mark status code now ∧
      l.update r = .ok l' := by
  unfold mark at h
  split at h
  · simp at h
  · next stored hfound =>
      split at h
      · simp at h
      · next table hupdate =>
          simp only [Except.ok.injEq, Prod.mk.injEq] at h
          rcases h with ⟨rfl, rfl⟩
          exact ⟨stored, hfound, rfl, hupdate⟩

/-- What an update refuses has nothing to do with files. -/
theorem update_ne_io (l : Ledger) (r : Record) (fault : FileFault) :
    l.update r ≠ .error (.io fault) := by
  unfold update
  split
  · simp
  · split
    · simp
    · split <;> simp

/-- An operation in memory does not fail with an error of the file system. -/
theorem fault?_perform_ne_io (l : Ledger) (op : Op) (fault : FileFault) :
    op.fault? (l.perform op).1 ≠ some (.io fault) := by
  cases op with
  | create d now => simp [perform, Op.fault?]
  | insert r =>
      simp only [perform, insert]
      cases l.find? r.key <;> simp [Op.fault?]
  | load key => simp [Op.fault?]
  | update r =>
      have hne := l.update_ne_io r fault
      simp only [perform]
      cases hupdate : l.update r with
      | error other => simpa [Op.fault?, hupdate] using hne
      | ok table => simp [Op.fault?]
  | delete key => simp [perform, Op.fault?]
  | mark key status code now =>
      simp only [perform, mark]
      cases l.find? key with
      | none => simp [Op.fault?]
      | some r =>
          have hne := l.update_ne_io (r.mark status code now) fault
          cases hupdate : l.update (r.mark status code now) with
          | error other => simpa [Op.fault?, hupdate] using hne
          | ok table => simp [Op.fault?, hupdate]
  | list => simp [Op.fault?]

/-- An operation on a sound table is a step. -/
theorem step_perform (h : l.Sound) (op : Op) :
    Step l op (l.perform op).1 (l.perform op).2 := by
  cases op with
  | create d now =>
      refine Step.entered (h.find?_freshId rfl) ?_ ?_ rfl rfl
      · omega
      · show l.freshId < max (l.freshId + 1) 1
        omega
  | insert r =>
      simp only [perform]
      cases hinsert : l.insert r with
      | error fault => exact Step.kept
      | ok table =>
          obtain ⟨hfree, rfl⟩ := insert_eq_ok hinsert
          refine Step.entered hfree ?_ ?_ rfl rfl
          · unfold freshId
            omega
          · omega
  | load key => exact Step.kept
  | update r =>
      simp only [perform]
      cases hupdate : l.update r with
      | error fault => exact Step.kept
      | ok table =>
          obtain ⟨stored, hfound, hreplaces, rfl⟩ := update_eq_ok hupdate
          exact Step.replaced hfound hreplaces rfl rfl
  | delete key => exact Step.taken key
  | mark key status code now =>
      simp only [perform]
      cases hmark : l.mark key status code now with
      | error fault => exact Step.kept
      | ok result =>
          obtain ⟨old, hold, hresult, hupdate⟩ := mark_eq_ok hmark
          obtain ⟨stored, hfound, hreplaces, htable⟩ := update_eq_ok hupdate
          simp only [htable]
          refine Step.replaced hfound hreplaces rfl ?_
          simp only [Op.subject?, hresult, Record.mark_key, key_of_find? hold]
  | list => exact Step.kept

/-! ## What a step keeps -/

namespace Step

variable {op : Op} {answer : op.Answer}

/-- A step keeps a table sound. -/
theorem sound (h : Step l op answer l') (hl : l.Sound) : l'.Sound := by
  cases h with
  | kept => exact hl
  | @entered _ _ r next free grows below =>
      refine ⟨ascending_put hl.ascending r, ?_⟩
      intro s hs
      show s.specialId < max next 1
      rcases Ordered.mem_put hs with rfl | hs
      · exact below
      · have hs' := hl.below s hs
        omega
  | @replaced _ _ stored r found =>
      refine ⟨ascending_put hl.ascending r, ?_⟩
      intro s hs
      rcases Ordered.mem_put hs with rfl | hs
      · have hstored := hl.below stored (mem_of_find? found)
        rw [Record.specialId, key_of_find? found] at hstored
        exact hstored
      · exact hl.below s hs
  | taken key =>
      refine ⟨List.Pairwise.filter _ hl.ascending, ?_⟩
      intro s hs
      exact hl.below s (List.mem_filter.1 hs).1

/-- The next number never goes back. -/
theorem freshId_le (h : Step l op answer l') : l.freshId ≤ l'.freshId := by
  cases h with
  | kept => exact Int.le_refl _
  | entered free grows => exact grows
  | replaced => exact Int.le_refl _
  | taken => exact Int.le_refl _

/-- A step whose answer is an error changes nothing, the next number included. -/
theorem eq_of_fault (h : Step l op answer l') (hfault : op.fault? answer ≠ none) : l' = l := by
  cases h with
  | kept => rfl
  | entered _ _ _ accepted => exact absurd accepted hfault
  | replaced _ _ accepted => exact absurd accepted hfault
  | taken key => exact absurd rfl hfault

/-- A step leaves the records under other keys alone. -/
theorem find?_of_ne (h : Step l op answer l') (hkey : op.subject? answer ≠ some key) :
    l'.find? key = l.find? key := by
  cases h with
  | kept => rfl
  | entered free grows below accepted subject =>
      exact find?_put_of_ne l fun heq => hkey (heq ▸ subject)
  | replaced found replaces accepted subject =>
      exact find?_put_of_ne l fun heq => hkey (heq ▸ subject)
  | taken taken =>
      exact find?_erase_of_ne l fun heq => hkey (heq ▸ rfl)

/-- A record that is done stays the same unless it is taken out. -/
theorem find?_done (h : Step l op answer l') (hfound : l.find? key = some r)
    (hdone : r.status = .done) (hop : op ≠ .delete key) : l'.find? key = some r := by
  cases h with
  | kept => exact hfound
  | @entered _ _ s next free =>
      have hne : key ≠ s.key := by
        rintro rfl
        simp [hfound] at free
      exact (find?_put_of_ne l hne).trans hfound
  | @replaced _ _ stored s found replaces =>
      by_cases hkey : key = s.key
      · subst hkey
        rw [hfound] at found
        cases found
        rw [← replaces.done hdone, find?_put_self]
      · exact (find?_put_of_ne l hkey).trans hfound
  | taken other =>
      have hne : key ≠ other := fun heq => hop (heq ▸ rfl)
      exact (find?_erase_of_ne l hne).trans hfound

/-- The rank of a record that is running before and after a step does not decrease. -/
theorem rank_le {s : Record} (h : Step l op answer l') (hbefore : l.find? key = some r)
    (hafter : l'.find? key = some s) (hr : r.status = .running) (hs : s.status = .running) :
    r.rank ≤ s.rank := by
  have hsame : l'.find? key = l.find? key → r.rank ≤ s.rank := by
    intro heq
    rw [hafter, hbefore] at heq
    cases heq
    exact Nat.le_refl _
  cases h with
  | kept => exact hsame rfl
  | @entered _ _ new next free =>
      have hne : key ≠ new.key := by
        rintro rfl
        simp [hbefore] at free
      exact hsame (find?_put_of_ne l hne)
  | @replaced _ _ stored new found replaces =>
      by_cases hkey : key = new.key
      · subst hkey
        rw [hbefore] at found
        cases found
        rw [find?_put_self] at hafter
        cases hafter
        exact replaces.rank hr hs
      · exact hsame (find?_put_of_ne l hkey)
  | taken other =>
      by_cases hkey : key = other
      · subst hkey
        simp [find?_erase_self] at hafter
      · exact hsame (find?_erase_of_ne l hkey)

end Step

end Ledger

end Courier
