import Courier.Proofs.Spool.Detection
import Courier.Proofs.Spool.Fleet

/-!
# Spools that exclude each other

A spool that claims the lock removes the one that it finds, and enters its loop if nobody writes it
again before the last look.  So a spool in its loop is safe while it writes the lock more often
than that, whatever keeps it busy otherwise.  Newcomers are not safe from each other: who comes
after the lock was removed, and before it is written again, finds none.  So they have to come one
at a time, and not before those in their loop have had the time to write the lock again.

Main definitions:

- `Fleet.Safe` says what has become of the lock and of those in their loop while a newcomer stands
  somewhere with it, and `Fleet.Sound` is what is true of several spools at any moment.

Main statements:

- Every step keeps several spools sound (`Fleet.Sound.step`).
- In a life no two spools are in their loop at any moment (`Fleet.Life.eq_of_inside`).  A spool
  that is not so prompt does not stay alone (`Fleet.exists_inside_sample`).
- A watch that waits for events is in its loop just when its phase says so
  (`Fleet.Life.inside_iff`).
-/

namespace Courier

open Program Calendar

namespace Fleet

variable {I : Type} [DecidableEq I]

/-! ## What is true at any moment -/

/-- What has become of the lock and of those in their loop while a newcomer, which may have removed
the lock at some time, stands somewhere. -/
def Safe (f : Fleet I) (removal : Nat) : Standing → Prop
  | .outside => ∀ j, f.IsInside j → f.locked = true
  | .found => ∀ j, f.IsInside j → f.locked = true
  | .free => ∀ j, ¬f.IsInside j
  | .removed => ∀ j, f.IsInside j → f.locked = true ∨ (f.instances j).wrote ≤ removal
  | .looking _ => ∀ j, f.IsInside j → f.locked = true ∨ (f.instances j).wrote ≤ removal
  | .clear looks =>
      (∀ j, f.IsInside j → f.locked = true ∨ (f.instances j).wrote ≤ removal) ∧
        (looks ≤ 1 → ∀ j, ¬f.IsInside j)
  | .inside => True
  | .gone => True

/-- How long ago a newcomer has removed the lock: an interval for every look that it made. -/
def Timed (period now removal : Nat) : Standing → Prop
  | .removed => removal ≤ now
  | .looking looks => removal + Lock.looks * period + period ≤ now + looks * period
  | .clear looks => removal + Lock.looks * period + period ≤ now + looks * period
  | _ => True

/-- Whether a place suits where a spool stands with the lock. -/
def Place.Suits (s : Standing) : Place → Prop
  | away => s = .gone
  | claiming => s ≠ .inside
  | inside => s = .inside

/-- Whether a spool stands somewhere with its lock, as far as it goes by what it does. -/
def Instance.Stands (a : Instance) (job : Job) (now removal : Nat) (s : Standing) : Prop :=
  match a.doing with
  | .nothing => s = .gone ∧ a.place = .away
  | .running p => p.Heeds job.lockFile (Watch.Begun job) s ∧ Timed job.elapseMs now removal s
  | .waiting w since =>
      w.job = job ∧ since ≤ now ∧
        ((∃ looks next, w.phase = .claiming looks next ∧ s = .looking looks ∧
          removal + Lock.looks * job.elapseMs ≤ since + looks * job.elapseMs) ∨
        (w.isInside = true ∧ s = .inside))

/-- What is true of several spools at any moment. -/
structure Sound (jobs : I → Job) (f : Fleet I) : Prop where
  stands : ∀ i, ∃ s removal, (f.instances i).place.Suits s ∧
    (f.instances i).Stands (jobs i) f.now removal s ∧ f.Safe removal s
  /-- No two of them are in their loop. -/
  alone : ∀ i j, f.IsInside i → f.IsInside j → i = j
  single : ∀ i j, (f.instances i).place = .claiming → (f.instances j).place = .claiming → i = j
  past : ∀ i, f.IsInside i → (f.instances i).wrote ≤ f.now
  /-- While nobody claims the lock, it is there or was not written since the last claim. -/
  quiet : (∀ i, (f.instances i).place ≠ .claiming) → ∀ j, f.IsInside j →
    f.locked = true ∨ (f.instances j).wrote ≤ f.decided

/-- Whether nobody enters its loop in a step, and the lock is not removed from those who stay. -/
def Calm (f f' : Fleet I) : Prop :=
  ∀ j, f'.IsInside j → f.IsInside j ∧ (f'.locked = true ∨
    (f'.locked = f.locked ∧ (f'.instances j).wrote = (f.instances j).wrote))

variable {jobs : I → Job} {f f' : Fleet I} {i j : I} {a : Instance} {locked : Bool}
  {removal span : Nat} {s : Standing}

omit [DecidableEq I] in
/-- A calm step keeps newcomers safe. -/
theorem Safe.calm (h : f.Safe removal s) (hcalm : f.Calm f') : f'.Safe removal s := by
  have hlocked : (∀ j, f.IsInside j → f.locked = true) → ∀ j, f'.IsInside j → f'.locked = true := by
    intro hall j hj
    obtain ⟨hinside, htrue | ⟨hsame, -⟩⟩ := hcalm j hj
    · exact htrue
    · rw [hsame]
      exact hall j hinside
  have hnobody : (∀ j, ¬f.IsInside j) → ∀ j, ¬f'.IsInside j := fun hall j hj =>
    hall j (hcalm j hj).1
  have hwrote : (∀ j, f.IsInside j → f.locked = true ∨ (f.instances j).wrote ≤ removal) →
      ∀ j, f'.IsInside j → f'.locked = true ∨ (f'.instances j).wrote ≤ removal := by
    intro hall j hj
    obtain ⟨hinside, htrue | ⟨hsame, hwrote⟩⟩ := hcalm j hj
    · exact Or.inl htrue
    · rw [hsame, hwrote]
      exact hall j hinside
  cases s with
  | outside => exact hlocked h
  | found => exact hlocked h
  | free => exact hnobody h
  | removed => exact hwrote h
  | looking looks => exact hwrote h
  | clear looks => exact ⟨hwrote h.1, fun hlast => hnobody (h.2 hlast)⟩
  | inside => trivial
  | gone => trivial

/-- A step in which the lock stays and a spool does not enter its loop is calm. -/
theorem calm_change (h : a.place = .inside → f.IsInside i ∧ a.wrote = (f.instances i).wrote) :
    f.Calm (f.change i a f.locked) :=
  forall_change (P := fun j b => b.place = .inside → f.IsInside j ∧
      (f.locked = true ∨ (f.locked = f.locked ∧ b.wrote = (f.instances j).wrote)))
    (fun ha => ⟨(h ha).1, Or.inr ⟨rfl, (h ha).2⟩⟩) fun _ _ hj => ⟨hj, Or.inr ⟨rfl, rfl⟩⟩

omit [DecidableEq I] in
/-- Who does not claim the lock does not go by those in their loop. -/
theorem safe_of_suits {place : Place} (h : place.Suits s) (hplace : place ≠ .claiming) :
    f.Safe removal s := by
  cases place with
  | claiming => exact absurd rfl hplace
  | away =>
      obtain rfl : s = .gone := h
      trivial
  | inside =>
      obtain rfl : s = .inside := h
      trivial

/-- Outside a claim the time does not matter to a standing. -/
theorem timed_of_suits {period now : Nat} {place : Place} (h : place.Suits s)
    (hplace : place ≠ .claiming) : Timed period now removal s := by
  cases place with
  | claiming => exact absurd rfl hplace
  | away =>
      obtain rfl : s = .gone := h
      trivial
  | inside =>
      obtain rfl : s = .inside := h
      trivial

theorem claiming_of_suits {place : Place} (h : place.Suits s) (hinside : s ≠ .inside)
    (hgone : s ≠ .gone) : place = .claiming := by
  cases place with
  | claiming => rfl
  | away => exact absurd h hgone
  | inside => exact absurd h hinside

/-- Who is inside stands inside. -/
theorem inside_iff_of_suits {place : Place} (h : place.Suits s) :
    place = .inside ↔ s = .inside := by
  cases place with
  | away =>
      obtain rfl : s = .gone := h
      constructor <;> rintro ⟨⟩
  | claiming =>
      refine ⟨?_, fun hs => absurd hs h⟩
      rintro ⟨⟩
  | inside => exact ⟨fun _ => h, fun _ => rfl⟩

/-- What keeps several spools sound when one of them changes. -/
theorem Sound.change (h : f.Sound jobs)
    (hown : ∃ s removal, a.place.Suits s ∧ a.Stands (jobs i) f.now removal s ∧
      (f.change i a locked).Safe removal s)
    (hcalm : (f.instances i).place ≠ .claiming → f.Calm (f.change i a locked))
    (halone : a.place = .inside → f.IsInside i ∨ ∀ j, ¬f.IsInside j)
    (hsingle : a.place = .claiming →
      (f.instances i).place = .claiming ∨ ∀ j, (f.instances j).place ≠ .claiming)
    (hpast : a.place = .inside → a.wrote ≤ f.now) : (f.change i a locked).Sound jobs := by
  have hpasts : ∀ j, (f.change i a locked).IsInside j →
      ((f.change i a locked).instances j).wrote ≤ f.now :=
    forall_change (P := fun _ b => b.place = .inside → b.wrote ≤ f.now) hpast
      fun j _ => h.past j
  refine ⟨?_, ?_, ?_, hpasts, ?_⟩
  · refine forall_change (P := fun j b => ∃ s removal, b.place.Suits s ∧
      b.Stands (jobs j) f.now removal s ∧ (f.change i a locked).Safe removal s) hown ?_
    intro j hji
    obtain ⟨s, removal, hsuits, hstands, hsafe⟩ := h.stands j
    refine ⟨s, removal, hsuits, hstands, ?_⟩
    by_cases hplace : (f.instances i).place = .claiming
    · exact safe_of_suits hsuits fun hj => hji (h.single j i hj hplace)
    · exact hsafe.calm (hcalm hplace)
  · exact unique_change (P := fun a => a.place = .inside) h.alone halone
  · exact unique_change (P := fun a => a.place = .claiming) h.single hsingle
  · intro hnobody j hj
    have ha : a.place ≠ .claiming := by
      have hi := hnobody i
      rwa [instances_change_self] at hi
    by_cases hplace : (f.instances i).place = .claiming
    · have hdecided : (f.change i a locked).decided = f.now := if_pos ⟨hplace, ha⟩
      rw [hdecided]
      exact Or.inr (hpasts j hj)
    · have hdecided : (f.change i a locked).decided = f.decided :=
        if_neg fun hboth => hplace hboth.1
      have hnone : ∀ k, (f.instances k).place ≠ .claiming := by
        intro k
        by_cases hki : k = i
        · rw [hki]
          exact hplace
        · have hk := hnobody k
          rwa [instances_change_of_ne hki] at hk
      obtain ⟨hinside, htrue | ⟨hsame, hwrote⟩⟩ := hcalm hplace j hj
      · exact Or.inl htrue
      · rw [hdecided, hsame, hwrote]
        exact h.quiet hnone j hinside

/-! ## Requests -/

section Request

variable {t : Option Touch} {rest : Program (Except Outcome Watch.Change)} {period now : Nat}

/-- Where a spool is goes on to suit where it stands with the lock. -/
theorem suits_goOn (hsuits : a.place.Suits s) (hadmits : s.admits t = true) :
    (a.goOn now rest t).place.Suits (s.after t) := by
  obtain ⟨doing, place, wrote⟩ := a
  cases t with
  | none => exact hsuits
  | some touch =>
      cases touch with
      | looked there =>
          cases place with
          | away =>
              obtain rfl : s = .gone := hsuits
              rfl
          | claiming =>
              have hne : s ≠ .inside := hsuits
              show s.saw there ≠ .inside
              cases s <;> cases there <;> simp_all [Standing.saw]
          | inside =>
              obtain rfl : s = .inside := hsuits
              rfl
      | wrote ok =>
          cases ok with
          | true => exact Standing.write_true s
          | false =>
              cases place with
              | away =>
                  obtain rfl : s = .gone := hsuits
                  cases hadmits
              | claiming =>
                  have hne : s ≠ .inside := hsuits
                  show s.write false ≠ .inside
                  cases s <;> simp_all [Standing.write]
              | inside =>
                  obtain rfl : s = .inside := hsuits
                  rfl
      | removed ok =>
          cases place with
          | away =>
              obtain rfl : s = .gone := hsuits
              cases hadmits
          | claiming =>
              have hne : s ≠ .inside := hsuits
              show s.remove ok ≠ .inside
              cases s <;> cases ok <;> simp_all [Standing.remove]
          | inside =>
              obtain rfl : s = .inside := hsuits
              rfl
      | renamed => cases hadmits

omit [DecidableEq I] in
/-- A newcomer that looks for the lock stays safe.  When the last look has found none, nobody is in
its loop, as everybody there has written the lock since it was removed. -/
theorem safe_saw (hsafe : f.Safe removal s) (htimed : Timed period f.now removal s)
    (hprompt : f.Prompt span) (hspan : span < Lock.looks * period) :
    f.Safe removal (s.saw f.locked) := by
  have hnobody : f.locked = false → (∀ j, f.IsInside j → f.locked = true) → ∀ j, ¬f.IsInside j := by
    intro hfalse hall j hj
    exact nomatch hfalse.symm.trans (hall j hj)
  cases hlocked : f.locked with
  | false =>
      cases s with
      | outside => exact hnobody hlocked hsafe
      | found => exact hnobody hlocked hsafe
      | looking looks =>
          refine ⟨hsafe, fun hlast j hj => ?_⟩
          rcases hsafe j hj with htrue | hwrote
          · exact nomatch hlocked.symm.trans htrue
          · have hnow := hprompt j hj
            have hlooks : looks * period ≤ 1 * period := Nat.mul_le_mul_right _ hlast
            have htime : removal + Lock.looks * period + period ≤ f.now + looks * period := htimed
            omega
      | _ => exact hsafe
  | true =>
      cases s with
      | outside => exact fun _ _ => hlocked
      | found => exact fun _ _ => hlocked
      | free => exact fun _ _ => hlocked
      | looking looks => trivial
      | clear looks => trivial
      | _ => exact hsafe

/-- A look keeps the time of a standing. -/
theorem timed_saw (there : Bool) (htimed : Timed period now removal s) :
    Timed period now removal (s.saw there) := by
  cases s <;> cases there <;> first | exact htimed | trivial

/-- What those in their loop do leaves newcomers safe: they write the lock, or leave. -/
theorem calm_goOn (h : f.Sound jobs) (hsuits : (f.instances i).place.Suits s)
    (hadmits : s.admits t = true) (htakes : Touch.Takes f.locked locked t)
    (hplace : (f.instances i).place ≠ .claiming) :
    f.Calm (f.change i ((f.instances i).goOn f.now rest t) locked) := by
  -- who is not in its loop neither writes the lock nor removes it
  have hinside : s.mayWrite = true ∨ s.mayRemove = true → f.IsInside i := by
    intro hmay
    cases hi : (f.instances i).place with
    | inside => exact hi
    | claiming => exact absurd hi hplace
    | away =>
        rw [hi] at hsuits
        obtain rfl : s = .gone := hsuits
        rcases hmay with hmay | hmay <;> cases hmay
  cases t with
  | none =>
      obtain rfl : locked = f.locked := htakes
      exact calm_change fun hi => ⟨hi, rfl⟩
  | some touch =>
      cases touch with
      | looked there =>
          obtain ⟨-, rfl⟩ : there = f.locked ∧ locked = f.locked := htakes
          exact calm_change fun hi => ⟨hi, rfl⟩
      | wrote ok =>
          cases ok with
          | false =>
              obtain rfl : locked = f.locked := htakes
              exact calm_change fun hi => ⟨hi, rfl⟩
          | true =>
              obtain rfl : locked = true := htakes
              intro j hj
              refine ⟨?_, Or.inl rfl⟩
              by_cases hji : j = i
              · rw [hji]
                exact hinside (Or.inl hadmits)
              · rwa [IsInside, instances_change_of_ne hji] at hj
      | removed ok =>
          have hi : (f.instances i).place = .inside := hinside (Or.inr hadmits)
          intro j hj
          by_cases hji : j = i
          · rw [hji, IsInside, instances_change_self] at hj
            have haway : (if (f.instances i).place = .inside then Place.away
                else (f.instances i).place) = .inside := hj
            rw [if_pos hi] at haway
            cases haway
          · rw [IsInside, instances_change_of_ne hji] at hj
            exact absurd (h.alone j i hj hi) hji
      | renamed => cases hadmits

/-- A newcomer that goes on to claim the lock stays safe. -/
theorem safe_goOn (h : f.Sound jobs) (hsafe : f.Safe removal s)
    (htimed : Timed period f.now removal s) (hsuits : (f.instances i).place.Suits s)
    (hadmits : s.admits t = true) (htakes : Touch.Takes f.locked locked t)
    (hprompt : f.Prompt span) (hspan : span < Lock.looks * period)
    (hplace : (f.instances i).place = .claiming)
    (hstays : ((f.instances i).goOn f.now rest t).place = .claiming) :
    ∃ removal, Timed period f.now removal (s.after t) ∧
      (f.change i ((f.instances i).goOn f.now rest t) locked).Safe removal (s.after t) := by
  have hne : s ≠ .inside := by
    rw [hplace] at hsuits
    exact hsuits
  have hcalm : locked = f.locked →
      f.Calm (f.change i ((f.instances i).goOn f.now rest t) locked) := by
    rintro rfl
    exact calm_change fun hi => nomatch hi.symm.trans hstays
  cases t with
  | none => exact ⟨removal, htimed, hsafe.calm (hcalm htakes)⟩
  | some touch =>
      cases touch with
      | looked there =>
          obtain ⟨rfl, hlocked⟩ : there = f.locked ∧ locked = f.locked := htakes
          exact ⟨removal, timed_saw _ htimed,
            (safe_saw hsafe htimed hprompt hspan).calm (hcalm hlocked)⟩
      | wrote ok =>
          cases ok with
          | true => cases hstays
          | false =>
              have hgone : s.after (some (.wrote false)) = .gone := by
                cases s <;> first | rfl | exact absurd rfl hne
              rw [hgone]
              exact ⟨removal, trivial, trivial⟩
      | removed ok =>
          obtain rfl : s = .found := by
            cases s <;> first | rfl | exact absurd rfl hne | cases hadmits
          cases ok with
          | false => exact ⟨removal, trivial, trivial⟩
          | true =>
              refine ⟨f.now, Nat.le_refl _, ?_⟩
              refine forall_change (P := fun _ b => b.place = .inside →
                locked = true ∨ b.wrote ≤ f.now) (fun hi => ?_) fun j _ hj => Or.inr (h.past j hj)
              rw [hstays] at hi
              cases hi
      | renamed => cases hadmits

omit [DecidableEq I] in
/-- Who may write the lock is in its loop, or nobody is. -/
theorem isInside_or_nobody (hsafe : f.Safe removal s) (hsuits : (f.instances i).place.Suits s)
    (hmay : s.mayWrite = true) : f.IsInside i ∨ ∀ j, ¬f.IsInside j := by
  cases s with
  | free => exact Or.inr hsafe
  | clear looks => exact Or.inr (hsafe.2 (of_decide_eq_true hmay))
  | inside =>
      refine Or.inl ?_
      cases hi : (f.instances i).place with
      | inside => exact hi
      | claiming =>
          rw [hi] at hsuits
          exact absurd rfl hsuits
      | away =>
          rw [hi] at hsuits
          cases hsuits
  | _ => cases hmay

/-- A request keeps several spools sound. -/
theorem Sound.request {lock : Path} {r : Request}
    {next : r.Answer → Program (Except Outcome Watch.Change)} {answer : r.Answer}
    (h : f.Sound jobs) (hlock : (jobs i).lockFile = lock) (hprompt : f.Prompt span)
    (hspan : span < Lock.looks * (jobs i).elapseMs)
    (hruns : (f.instances i).doing = .running (.step r next))
    (htakes : Touch.Takes f.locked locked (Exchange.touch? lock ⟨r, answer⟩)) :
    (f.change i ((f.instances i).goOn f.now (next answer) (Exchange.touch? lock ⟨r, answer⟩))
      locked).Sound jobs := by
  subst hlock
  obtain ⟨s, removal, hsuits, hstands, hsafe⟩ := h.stands i
  simp only [Instance.Stands, hruns] at hstands
  obtain ⟨hheeds, htimed⟩ := hstands
  obtain ⟨hadmits, hrest⟩ := hheeds answer
  generalize Exchange.touch? (jobs i).lockFile ⟨r, answer⟩ = t at *
  have hsuits' : ((f.instances i).goOn f.now (next answer) t).place.Suits (s.after t) :=
    suits_goOn hsuits hadmits
  refine h.change ?_ (calm_goOn h hsuits hadmits htakes) ?_ ?_ ?_
  · have hstands' : ∀ removal', Timed (jobs i).elapseMs f.now removal' (s.after t) →
        ((f.instances i).goOn f.now (next answer) t).Stands (jobs i) f.now removal'
          (s.after t) := by
      intro removal' htimed'
      simp only [Instance.Stands, Instance.doing_goOn]
      exact ⟨hrest, htimed'⟩
    by_cases hstays : ((f.instances i).goOn f.now (next answer) t).place = .claiming
    · obtain ⟨removal', htimed', hsafe'⟩ := safe_goOn h hsafe htimed hsuits hadmits htakes
        hprompt hspan (Instance.claiming_of_goOn hstays) hstays
      exact ⟨_, removal', hsuits', hstands' removal' htimed', hsafe'⟩
    · exact ⟨_, 0, hsuits', hstands' 0 (timed_of_suits hsuits' hstays),
        safe_of_suits hsuits' hstays⟩
  · intro hinside
    rcases Instance.inside_of_goOn hinside with ⟨rfl, -⟩ | ⟨hi, -⟩
    · exact isInside_or_nobody hsafe hsuits hadmits
    · exact Or.inl hi
  · exact fun hclaiming => Or.inl (Instance.claiming_of_goOn hclaiming)
  · intro hinside
    rcases Instance.inside_of_goOn hinside with ⟨-, hwrote⟩ | ⟨hi, hwrote⟩
    · exact Nat.le_of_eq hwrote
    · rw [hwrote]
      exact h.past i hi

end Request

/-! ## Other steps -/

/-- What a spool does may change as long as it suits where it stands. -/
theorem Sound.doing (h : f.Sound jobs) {doing : Doing}
    (hown : ∃ s removal, (f.instances i).place.Suits s ∧
      { f.instances i with doing }.Stands (jobs i) f.now removal s ∧ f.Safe removal s) :
    (f.change i { f.instances i with doing } f.locked).Sound jobs := by
  have hcalm : f.Calm (f.change i { f.instances i with doing } f.locked) :=
    calm_change fun hi => ⟨hi, rfl⟩
  obtain ⟨s, removal, hsuits, hstands, hsafe⟩ := hown
  exact h.change ⟨s, removal, hsuits, hstands, hsafe.calm hcalm⟩ (fun _ => hcalm)
    (fun hi => Or.inl hi) (fun hi => Or.inl hi) (h.past i)

/-- Spools that are killed, or end, leave the others alone. -/
theorem Sound.quit (h : f.Sound jobs) : (f.change i {} f.locked).Sound jobs := by
  refine h.change ⟨.gone, 0, rfl, ⟨rfl, rfl⟩, trivial⟩ (fun _ => calm_change ?_) ?_ ?_ ?_
  all_goals
    intro hplace
    cases hplace

/-- A newcomer finds the lock if anybody is in its loop. -/
theorem Sound.begin {time : Nat} {ctx : Context} (h : f.Sound jobs) (hsettled : f.Settled span)
    (hprompt : f.Prompt span) :
    (f.change i ⟨.running (Watch.start ctx (jobs i) time), .claiming, 0⟩ f.locked).Sound jobs := by
  have hcalm : f.Calm
      (f.change i ⟨.running (Watch.start ctx (jobs i) time), .claiming, 0⟩ f.locked) := by
    refine calm_change fun hplace => ?_
    cases hplace
  have hsafe : f.Safe 0 .outside := by
    intro j hj
    rcases h.quiet hsettled.1 j hj with hlocked | hwrote
    · exact hlocked
    · have hnow := hprompt j hj
      have hlong := hsettled.2 j hj
      omega
  refine h.change ⟨.outside, 0, ?_, ⟨?_, trivial⟩, hsafe.calm hcalm⟩ (fun _ => hcalm) ?_ ?_ ?_
  · rintro ⟨⟩
  · exact Watch.heeds_start ctx (jobs i) time
  · rintro ⟨⟩
  · exact fun _ => Or.inr hsettled.1
  · rintro ⟨⟩

omit [DecidableEq I] in
/-- A newcomer that waits for its next look stands where it looks for the lock. -/
theorem looks_of_suits {period looks : Nat}
    (hat : (s = .removed ∧ looks = Lock.looks) ∨ s = .clear (looks + 1))
    (htimed : Timed period f.now removal s) (hsafe : f.Safe removal s) :
    removal + Lock.looks * period ≤ f.now + looks * period ∧
      f.Safe removal (.looking looks) := by
  rcases hat with ⟨rfl, rfl⟩ | rfl
  · exact ⟨Nat.add_le_add_right htimed _, hsafe⟩
  · refine ⟨?_, hsafe.1⟩
    have htime : removal + Lock.looks * period + period ≤ f.now + (looks + 1) * period := htimed
    rw [Nat.succ_mul] at htime
    omega

/-- The end of a program keeps several spools sound. -/
theorem Sound.finish {result : Except Outcome Watch.Change} (h : f.Sound jobs)
    (hruns : (f.instances i).doing = .running (.done result)) :
    (f.change i ((f.instances i).finish f.now result) f.locked).Sound jobs := by
  obtain ⟨s, removal, hsuits, hstands, hsafe⟩ := h.stands i
  simp only [Instance.Stands, hruns] at hstands
  obtain ⟨hbegun, htimed⟩ := hstands
  cases result with
  | error outcome => exact h.quit
  | ok change =>
      obtain ⟨hjob, hat⟩ := hbegun change rfl
      cases hended : change.1.outcome? with
      | some outcome =>
          rw [Instance.finish_of_ended hended]
          exact h.quit
      | none =>
          rw [Instance.finish_of_waiting hended]
          refine h.doing ?_
          obtain ⟨looks, next, hphase, hat⟩ | ⟨outcome, hphase⟩ | ⟨hinside, hat⟩ := hat.phase
          · obtain ⟨htime, hsafe'⟩ := looks_of_suits hat htimed hsafe
            have hplace : (f.instances i).place = .claiming := by
              rcases hat with ⟨rfl, -⟩ | rfl <;>
                exact claiming_of_suits hsuits (by rintro ⟨⟩) (by rintro ⟨⟩)
            refine ⟨.looking looks, removal, ?_, ?_, hsafe'⟩
            · rw [hplace]
              rintro ⟨⟩
            · exact ⟨hjob, Nat.le_refl _, Or.inl ⟨looks, next, hphase, rfl, htime⟩⟩
          · simp only [Watch.outcome?, hphase] at hended
            cases hended
          · exact ⟨s, removal, hsuits, ⟨hjob, Nat.le_refl _, Or.inr ⟨hinside, hat⟩⟩, hsafe⟩

/-- An event that a watch waits for keeps several spools sound. -/
theorem Sound.event {w : Watch} {since time : Nat} {e : Watch.Event} (h : f.Sound jobs)
    (hwaits : (f.instances i).doing = .waiting w since) (hhears : w.Hears since f.now e) :
    (f.change i { f.instances i with
      doing := .running (w.handle time e >>= fun change => .done (.ok change)) }
        f.locked).Sound jobs := by
  obtain ⟨s, removal, hsuits, hstands, hsafe⟩ := h.stands i
  simp only [Instance.Stands, hwaits] at hstands
  obtain ⟨hjob, -, hat⟩ := hstands
  have hbegun : ∀ {s : Standing} {p : Program Watch.Change}, Watch.Heeds (jobs i) s p →
      (p >>= fun change => .done (.ok change)).Heeds (jobs i).lockFile
        (Watch.Begun (jobs i)) s := by
    intro s p hp
    refine heeds_bind hp fun s change hchange => ?_
    rintro _ ⟨⟩
    exact hchange
  refine h.doing ?_
  obtain ⟨looks, next, hphase, rfl, htime⟩ | ⟨hinside, rfl⟩ := hat
  · simp only [Watch.Hears, hphase] at hhears
    have hplace := claiming_of_suits hsuits (by rintro ⟨⟩) (by rintro ⟨⟩)
    rcases hhears with rfl | ⟨rfl, hsince⟩
    · refine ⟨.gone, removal, ?_, ⟨hbegun ?_, trivial⟩, trivial⟩
      · rw [hplace]
        rintro ⟨⟩
      · simp only [Watch.handle, Watch.onStop, hphase]
        exact ⟨hjob, trivial⟩
    · refine ⟨.looking looks, removal, hsuits,
        ⟨hbegun (Watch.heeds_claimTime hjob hphase time), ?_⟩, hsafe⟩
      rw [hjob] at hsince
      show removal + Lock.looks * (jobs i).elapseMs + (jobs i).elapseMs ≤
        f.now + looks * (jobs i).elapseMs
      omega
  · exact ⟨.inside, removal, hsuits, ⟨hbegun (Watch.heeds_handle hjob hinside time e), trivial⟩,
      trivial⟩

/-- Newcomers do not become unsafe while time passes. -/
theorem Timed.mono {period now now' : Nat} (h : Timed period now removal s) (hnow : now ≤ now') :
    Timed period now' removal s := by
  cases s with
  | removed => exact Nat.le_trans h hnow
  | looking looks => exact Nat.le_trans h (Nat.add_le_add_right hnow _)
  | clear looks => exact Nat.le_trans h (Nat.add_le_add_right hnow _)
  | _ => trivial

/-- A standing lasts while time passes. -/
theorem Instance.Stands.mono {job : Job} {now now' : Nat} (h : a.Stands job now removal s)
    (hnow : now ≤ now') : a.Stands job now' removal s := by
  unfold Instance.Stands at h ⊢
  split at h
  · exact h
  · exact ⟨h.1, h.2.mono hnow⟩
  · exact ⟨h.1, Nat.le_trans h.2.1 hnow, h.2.2⟩

omit [DecidableEq I] in
/-- Several spools stay sound while time passes. -/
theorem Sound.wait (h : f.Sound jobs) (span : Nat) :
    Sound jobs { f with now := f.now + span } where
  stands := by
    intro i
    obtain ⟨s, removal, hsuits, hstands, hsafe⟩ := h.stands i
    exact ⟨s, removal, hsuits, hstands.mono (Nat.le_add_right _ _),
      hsafe.calm fun j hj => ⟨hj, Or.inr ⟨rfl, rfl⟩⟩⟩
  alone := h.alone
  single := h.single
  past := fun i hi => Nat.le_trans (h.past i hi) (Nat.le_add_right _ _)
  quiet := h.quiet

/-! ## Lives -/

section Life

variable {ctx : I → Context} {lock : Path} {period : Nat}

omit [DecidableEq I] in
/-- Spools that do nothing are sound. -/
theorem sound_of_idle (h : ∀ i, f.instances i = {}) : f.Sound jobs where
  stands := by
    intro i
    rw [h i]
    exact ⟨.gone, 0, rfl, ⟨rfl, rfl⟩, trivial⟩
  alone := by
    intro i j hi
    rw [IsInside, h i] at hi
    cases hi
  single := by
    intro i j hi
    rw [h i] at hi
    cases hi
  past := by
    intro i hi
    rw [IsInside, h i] at hi
    cases hi
  quiet := by
    intro _ i hi
    rw [IsInside, h i] at hi
    cases hi

omit [DecidableEq I] in
/-- Who does nothing is not there. -/
theorem Sound.away (h : f.Sound jobs) (hidle : (f.instances i).doing = .nothing) :
    (f.instances i).place = .away := by
  obtain ⟨s, removal, -, hstands, -⟩ := h.stands i
  simp only [Instance.Stands, hidle] at hstands
  exact hstands.2

/-- One step keeps several spools sound. -/
theorem Sound.step (h : f.Sound jobs) (hlock : ∀ i, (jobs i).lockFile = lock)
    (hperiod : ∀ i, (jobs i).elapseMs = period) (hspan : span < Lock.looks * period)
    (hprompt : f.Prompt span) (hstep : Step ctx jobs lock f f')
    (hapart : ∀ i, (f.instances i).place = .away → (f'.instances i).place = .claiming →
      f.Settled span) : f'.Sound jobs := by
  cases hstep with
  | wait => exact h.wait _
  | @begin i time idle =>
      refine h.begin (hapart i (h.away idle) ?_) hprompt
      rw [instances_change_self]
  | @request i r next answer locked runs takes =>
      refine h.request (hlock i) hprompt ?_ runs takes
      rw [hperiod i]
      exact hspan
  | finish runs => exact h.finish runs
  | event time waits hears => exact h.event waits hears
  | quit => exact h.quit

/-- Several spools are sound at any moment of their life. -/
theorem Life.sound (hlock : ∀ i, (jobs i).lockFile = lock)
    (hperiod : ∀ i, (jobs i).elapseMs = period) (hspan : span < Lock.looks * period)
    (h : Life ctx jobs lock span f) : f.Sound jobs := by
  induction h with
  | start => exact sound_of_idle fun _ => rfl
  | step life hstep hprompt hapart ih => exact ih.step hlock hperiod hspan life.prompt hstep hapart

/-- No two spools are in their loop at any moment, if each of them writes the lock more often than
a newcomer takes to look for it, and newcomers come one at a time. -/
theorem Life.eq_of_inside (hlock : ∀ i, (jobs i).lockFile = lock)
    (hperiod : ∀ i, (jobs i).elapseMs = period) (hspan : span < Lock.looks * period)
    (h : Life ctx jobs lock span f) (hi : f.IsInside i) (hj : f.IsInside j) : i = j :=
  (h.sound hlock hperiod hspan).alone i j hi hj

/-- A watch that waits for an event is in its loop just when its phase says so. -/
theorem Life.inside_iff {w : Watch} {since : Nat} (hlock : ∀ i, (jobs i).lockFile = lock)
    (hperiod : ∀ i, (jobs i).elapseMs = period) (hspan : span < Lock.looks * period)
    (h : Life ctx jobs lock span f) (hwaits : (f.instances i).doing = .waiting w since) :
    f.IsInside i ↔ w.isInside = true := by
  obtain ⟨s, removal, hsuits, hstands, -⟩ := (h.sound hlock hperiod hspan).stands i
  simp only [Instance.Stands, hwaits] at hstands
  obtain ⟨-, -, hat⟩ := hstands
  rw [IsInside, inside_iff_of_suits hsuits]
  obtain ⟨looks, next, hphase, rfl, -⟩ | ⟨hinside, rfl⟩ := hat
  · rw [Watch.isInside, hphase]
    constructor <;> rintro ⟨⟩
  · exact ⟨fun _ => hinside, fun _ => rfl⟩

end Life

/-! ### A sample -/

section Sample

def sampleContext : Context where
  hosts := { plainId := "here", secureId := "here" }
  rules := RuleBook.ofList [{ name := "out", mode := .send }]
  policy := .standard

def sampleJob : Job :=
  Watch.sampleJob

/-- Surroundings in which there is an empty directory, and the lock or not. -/
def sampleAnswer (locked : Bool) : (r : Request) → r.Answer
  | .now => default
  | .clockFraction => 0
  | .files op => match op with
      | .metadata p =>
          if p = sampleJob.lockFile then if locked then .ok ⟨.file, 0, 0⟩ else .error .notFound
          else if p = ⟨"in"⟩ then .ok ⟨.directory, 0, 0⟩ else .error .notFound
      | .entries _ => .ok []
      | .read _ => .error .notFound
      | .write _ _ | .makeDirectories _ | .rename _ _ | .remove _ => .ok ()
  | .ledger op => ((Ledger.mk [] 0).perform op).1
  | .connect _ => .fatal .connectionImpossible "unreachable"
  | .complete _ _ | .ask _ _ _ | .send _ _ _ | .writable _ => .error .closed
  | .reportFailure _ | .reportProgress _ | .tally _ | .sleep _ | .close _ => ()

theorem takes_sampleAnswer (locked : Bool) (r : Request) :
    Touch.Takes locked
      (lockedAfter locked (Exchange.touch? sampleJob.lockFile ⟨r, sampleAnswer locked r⟩))
      (Exchange.touch? sampleJob.lockFile ⟨r, sampleAnswer locked r⟩) := by
  cases r with
  | files op =>
      cases op with
      | metadata p =>
          simp only [Exchange.touch?]
          split
          · next hp =>
              subst hp
              cases locked <;> exact ⟨rfl, rfl⟩
          · rfl
      | write p content =>
          simp only [Exchange.touch?]
          split <;> rfl
      | remove p =>
          simp only [Exchange.touch?]
          split <;> rfl
      | rename p q =>
          simp only [Exchange.touch?]
          split <;> trivial
      | _ => rfl
  | _ => rfl

/-- Nobody does anything. -/
def sampleIdle : Fleet Bool where
  now := 0
  locked := false
  decided := 0
  instances := fun _ => {}

/-- A spool begins, and goes on until it waits. -/
def sampleBegin (f : Fleet Bool) (i : Bool) : Fleet Bool :=
  drive sampleJob.lockFile sampleAnswer i (Watch.start sampleContext sampleJob 0)
    (f.change i ⟨.running (Watch.start sampleContext sampleJob 0), .claiming, 0⟩ f.locked)

/-- A spool that waits handles an event after some time. -/
def sampleEvent (f : Fleet Bool) (i : Bool) (span : Nat) (e : Watch.Event) : Fleet Bool :=
  match (f.instances i).doing with
  | .waiting w _ =>
      drive sampleJob.lockFile sampleAnswer i (w.handle 0 e >>= fun change => .done (.ok change))
        ({ f with now := f.now + span }.change i { f.instances i with
          doing := .running (w.handle 0 e >>= fun change => .done (.ok change)) } f.locked)
  | _ => f

/-- A life of spools with the job of the sample. -/
abbrev SampleLife (span : Nat) : Fleet Bool → Prop :=
  Life (fun _ => sampleContext) (fun _ => sampleJob) sampleJob.lockFile span

variable {f : Fleet Bool} {i : Bool} {span : Nat}

theorem SampleLife.wait (h : SampleLife span f) (time : Nat)
    (hprompt : ∀ i, (f.instances i).place = .inside →
      f.now + time ≤ (f.instances i).wrote + span) :
    SampleLife span { f with now := f.now + time } := by
  refine h.step (.wait time) hprompt fun i haway hclaiming => ?_
  rw [show (f.instances i).place = .claiming from hclaiming] at haway
  cases haway

theorem SampleLife.begin (h : SampleLife span f) (hidle : (f.instances i).doing = .nothing)
    (hsettled : f.Settled span) : SampleLife span (sampleBegin f i) := by
  refine (h.change (.begin 0 hidle) ?_ fun _ _ => hsettled).drive takes_sampleAnswer ?_
  · rintro ⟨⟩
  · rw [instances_change_self]

theorem SampleLife.event {e : Watch.Event} (h : SampleLife span f) (time : Nat)
    (hhears : match (f.instances i).doing with
      | .waiting w since => w.Hears since (f.now + time) e
      | _ => True)
    (hprompt : ∀ i, (f.instances i).place = .inside →
      f.now + time ≤ (f.instances i).wrote + span) : SampleLife span (sampleEvent f i time e) := by
  unfold sampleEvent
  split
  · next w since hwaits =>
      rw [hwaits] at hhears
      have hwaited := SampleLife.wait h time hprompt
      refine (hwaited.change (.event 0 hwaits hhears) (hwaited.prompt i) ?_).drive
        takes_sampleAnswer ?_
      · intro haway hclaiming
        rw [show (f.instances i).place = .claiming from hclaiming] at haway
        cases haway
      · rw [instances_change_self]
  · exact h

end Sample

/-- One spool is in its loop, and another one has found the lock, removed it, and waits. -/
theorem eq_of_inside_sample : ∃ f : Fleet Bool, SampleLife 5000 f ∧ f.locked = false ∧
    (f.instances false).place = .claiming ∧ f.IsInside true ∧ ∀ i, f.IsInside i → i = true := by
  have life : SampleLife 5000 sampleIdle := .start 0 0 false
  have life := SampleLife.begin (i := true) life rfl ⟨by decide, by decide⟩
  have life := SampleLife.event (i := true) (e := .lookTime) life 5000 trivial (by decide)
  have life := SampleLife.begin (i := false) (SampleLife.wait life 1 (by decide)) rfl
    ⟨by decide, by decide⟩
  exact ⟨_, life, rfl, rfl, rfl, fun _ hi =>
    life.eq_of_inside (fun _ => rfl) (fun _ => rfl) (by decide) hi rfl⟩

/-- The span cannot be longer: who writes the lock just when a newcomer removes it, and then not
for all of its looks, does not stay alone. -/
theorem exists_inside_sample : ∃ f : Fleet Bool,
    SampleLife (Lock.looks * sampleJob.elapseMs) f ∧ f.IsInside true ∧ f.IsInside false := by
  have life : SampleLife (Lock.looks * sampleJob.elapseMs) sampleIdle := .start 0 0 false
  have life := SampleLife.begin (i := true) life rfl ⟨by decide, by decide⟩
  have life := SampleLife.event (i := true) (e := .lookTime) life 10000 trivial (by decide)
  have life := SampleLife.event (i := true) (e := .lookTime) life 1 trivial (by decide)
  have life := SampleLife.begin (i := false) life rfl ⟨by decide, by decide⟩
  iterate 10
    replace life := SampleLife.event (i := false) (e := .claimTime) life 1000
      (Or.inr ⟨rfl, by decide⟩) (by decide)
  exact ⟨_, life, rfl, rfl⟩

end Fleet

end Courier
