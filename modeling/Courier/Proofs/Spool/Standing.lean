import Courier.Proofs.Spool.Departure
import Courier.Proofs.Spool.Writing

/-!
# Where a watch stands with its lock

A watch looks for the lock, removes the one that it finds, looks for it again and again, writes
it, goes on writing it while it is in its loop, and removes it at the end.  What it may ask for
next is told by where it stands in this, request by request, so that watches which share a lock
can be followed while they take turns at any request.

Main definitions:

- `Touch` is what an exchange did to a lock.
- `Standing` is where a watch stands with its lock, `Standing.after` where it stands after the
  lock was touched, and `Standing.admits` says what may be done to the lock.
- `Program.Heeds` says that a program only does to the lock what may be done where it stands.

Main statements:

- A claim heeds where it stands (`Lock.heeds_begin`, `Lock.heeds_poll`).
- So does a watch that begins (`Watch.heeds_start`), looks for the lock again
  (`Watch.heeds_claimTime`), and is in its loop (`Watch.heeds_handle`).
-/

namespace Courier

open Program Calendar

/-! ## Touches -/

/-- What an exchange did to the file of a lock. -/
inductive Touch where
  /-- The file was looked for. -/
  | looked (there : Bool)
  /-- The file was written, or should have been. -/
  | wrote (ok : Bool)
  /-- The file was removed, or should have been. -/
  | removed (ok : Bool)
  /-- The file got another name, or another one got its name. -/
  | renamed

/-- What an exchange did to a file, if anything. -/
def Exchange.touch? (file : Path) : Exchange → Option Touch
  | ⟨.files (.metadata p), answer⟩ => if p = file then some (.looked answer.isOk) else none
  | ⟨.files (.write p _), answer⟩ => if p = file then some (.wrote answer.isOk) else none
  | ⟨.files (.remove p), answer⟩ => if p = file then some (.removed answer.isOk) else none
  | ⟨.files (.rename p q), _⟩ => if p = file ∨ q = file then some .renamed else none
  | _ => none

section Touch

variable {file p : Path} {content : ByteArray}

theorem Exchange.touch?_metadata {answer : (Request.files (.metadata p)).Answer} (h : p = file) :
    touch? file ⟨.files (.metadata p), answer⟩ = some (.looked answer.isOk) :=
  if_pos h

theorem Exchange.touch?_write {answer : (Request.files (.write p content)).Answer}
    (h : p = file) : touch? file ⟨.files (.write p content), answer⟩ = some (.wrote answer.isOk) :=
  if_pos h

theorem Exchange.touch?_remove {answer : (Request.files (.remove p)).Answer} (h : p = file) :
    touch? file ⟨.files (.remove p), answer⟩ = some (.removed answer.isOk) :=
  if_pos h

end Touch

/-! ## Standings -/

/-- Where a watch stands with its lock. -/
inductive Standing where
  /-- It has not looked for the lock. -/
  | outside
  /-- It has found a lock, and may remove it. -/
  | found
  /-- It has found no lock, and may write it. -/
  | free
  /-- It has removed a lock, and has to wait before it looks for the next one. -/
  | removed
  /-- It looks for the lock, and has so many looks left with this one. -/
  | looking (looks : Nat)
  /-- It has looked for the lock and found none. -/
  | clear (looks : Nat)
  /-- It is in its loop. -/
  | inside
  /-- It has nothing to do with the lock any more. -/
  | gone

namespace Standing

/-- Where a watch stands after a look for the lock. -/
def saw : Standing → Bool → Standing
  | removed, _ => removed
  | looking _, true => gone
  | looking looks, false => clear looks
  | clear _, true => gone
  | clear looks, false => clear looks
  | inside, _ => inside
  | gone, _ => gone
  | _, true => found
  | _, false => free

/-- Where a watch stands after it has removed the lock, or failed to. -/
def remove : Standing → Bool → Standing
  | found, true => removed
  | _, _ => gone

/-- Where a watch stands after it has written the lock, or failed to. -/
def write : Standing → Bool → Standing
  | inside, _ => inside
  | _, true => inside
  | _, false => gone

/-- Where a watch stands after something was done to the lock. -/
def after : Standing → Option Touch → Standing
  | s, some (.looked there) => s.saw there
  | s, some (.wrote ok) => s.write ok
  | s, some (.removed ok) => s.remove ok
  | s, _ => s

/-- Whether the lock may be removed. -/
def mayRemove : Standing → Bool
  | found => true
  | inside => true
  | _ => false

/-- Whether the lock may be written. -/
def mayWrite : Standing → Bool
  | free => true
  | clear looks => looks ≤ 1
  | inside => true
  | _ => false

/-- Whether something may be done to the lock. -/
def admits : Standing → Option Touch → Bool
  | s, some (.wrote _) => s.mayWrite
  | s, some (.removed _) => s.mayRemove
  | _, some .renamed => false
  | _, _ => true

/-- Whether a watch has not done anything to the lock yet. -/
def isEarly : Standing → Bool
  | outside => true
  | found => true
  | free => true
  | _ => false

@[simp] theorem write_true (s : Standing) : s.write true = inside := by
  cases s <;> rfl

end Standing

/-! ## Programs that heed where they stand -/

namespace Program

variable {α β : Type} {lock : Path} {s : Standing} {Q : Standing → α → Prop}
  {R : Standing → β → Prop}

/-- Whether a program only does to the lock what may be done where it stands, whatever is answered,
and what is true at the end. -/
def Heeds (lock : Path) (Q : Standing → α → Prop) : Standing → Program α → Prop
  | s, .done a => Q s a
  | s, .step r next => ∀ answer, s.admits (Exchange.touch? lock ⟨r, answer⟩) = true ∧
      Heeds lock Q (s.after (Exchange.touch? lock ⟨r, answer⟩)) (next answer)

/-- Programs one after the other heed the lock when each does from where the last one left it. -/
theorem heeds_bind {p : Program α} {f : α → Program β} (hp : Heeds lock Q s p)
    (hf : ∀ s a, Q s a → Heeds lock R s (f a)) : Heeds lock R s (p >>= f) := by
  induction p generalizing s with
  | done a => exact hf s a hp
  | step r next ih => exact fun answer => ⟨(hp answer).1, ih answer (hp answer).2⟩

/-- A request that has nothing to do with the lock. -/
theorem heeds_ask {r : Request} {f : r.Answer → Program β}
    (hr : ∀ answer, Exchange.touch? lock ⟨r, answer⟩ = none)
    (hf : ∀ answer, Heeds lock R s (f answer)) : Heeds lock R s (perform r >>= f) := by
  intro answer
  rw [hr answer]
  exact ⟨rfl, hf answer⟩

/-- What every request leaves true of where one stands is true at the end. -/
theorem heeds_of_asks {P : Request → Prop} {S : Standing → Prop}
    (hS : ∀ s r answer, S s → P r → s.admits (Exchange.touch? lock ⟨r, answer⟩) = true ∧
      S (s.after (Exchange.touch? lock ⟨r, answer⟩))) {p : Program α} (hp : Asks P p) (hs : S s) :
    Heeds lock (fun s _ => S s) s p := by
  induction p generalizing s with
  | done a => exact hs
  | step r next ih =>
      intro answer
      obtain ⟨hadmits, hafter⟩ := hS s r answer hs hp.1
      exact ⟨hadmits, ih answer (hp.2 answer) hafter⟩

end Program

/-! ## Requests that leave a standing alone -/

namespace Request

/-- Whether a request only looks at files, or asks for the time. -/
def isLook : Request → Bool
  | now => true
  | files (.metadata _) => true
  | files (.entries _) => true
  | files (.read _) => true
  | _ => false

/-- Whether a request neither removes nor renames a file. -/
def keepsFiles : Request → Bool
  | files (.remove _) => false
  | files (.rename _ _) => false
  | _ => true

end Request

namespace Exchange

variable (file : Path) {x : Exchange}

/-- A look is no touch but that of looking. -/
theorem touch?_of_isLook (h : x.request.isLook = true) :
    x.touch? file = none ∨ ∃ found, x.touch? file = some (.looked found) := by
  rcases x with ⟨r, answer⟩
  cases r with
  | files op =>
      cases op with
      | metadata p =>
          by_cases hp : p = file
          · exact Or.inr ⟨_, touch?_metadata hp⟩
          · exact Or.inl (if_neg hp)
      | entries p => exact Or.inl rfl
      | read p => exact Or.inl rfl
      | _ => cases h
  | _ => exact Or.inl rfl

/-- Who keeps files may look at the lock and write it, but does not remove it. -/
theorem touch?_of_keepsFiles (h : x.request.keepsFiles = true) :
    x.touch? file = none ∨ (∃ found, x.touch? file = some (.looked found)) ∨
      ∃ ok, x.touch? file = some (.wrote ok) := by
  rcases x with ⟨r, answer⟩
  cases r with
  | files op =>
      cases op with
      | metadata p =>
          by_cases hp : p = file
          · exact Or.inr (Or.inl ⟨_, touch?_metadata hp⟩)
          · exact Or.inl (if_neg hp)
      | write p content =>
          by_cases hp : p = file
          · exact Or.inr (Or.inr ⟨_, touch?_write hp⟩)
          · exact Or.inl (if_neg hp)
      | remove p => cases h
      | rename p q => cases h
      | _ => exact Or.inl rfl
  | _ => exact Or.inl rfl

end Exchange

namespace Standing

variable {α : Type} {lock : Path} {s : Standing} {p : Program α}

/-- Who only looks stays early. -/
theorem heeds_looks (hp : Asks (fun r => r.isLook = true) p) (hs : s.isEarly = true) :
    Heeds lock (fun s _ => s.isEarly = true) s p := by
  refine heeds_of_asks (S := fun s => s.isEarly = true) (fun s r answer hs hr => ?_) hp hs
  rcases Exchange.touch?_of_isLook lock (x := ⟨r, answer⟩) hr with
    htouch | ⟨found, htouch⟩
  · rw [htouch]
    exact ⟨rfl, hs⟩
  · rw [htouch]
    refine ⟨rfl, ?_⟩
    cases s <;> cases found <;> first | rfl | cases hs

/-- Who neither removes nor renames a file stays inside. -/
theorem heeds_inside (hp : Asks (fun r => r.keepsFiles = true) p) :
    Heeds lock (fun s _ => s = .inside) .inside p := by
  refine heeds_of_asks (S := fun s => s = .inside) ?_ hp rfl
  rintro s r answer rfl hr
  rcases Exchange.touch?_of_keepsFiles lock (x := ⟨r, answer⟩) hr with
    htouch | ⟨found, htouch⟩ | ⟨ok, htouch⟩
  all_goals
    rw [htouch]
    exact ⟨rfl, rfl⟩

end Standing

/-! ## Claims -/

/-- Whether the outcome of a claim, or of a look, suits where one stands. -/
def Lock.Claim.Suits (s : Standing) : Claim → Prop
  | held => s = .inside
  | waiting looks => (s = .removed ∧ looks = Lock.looks) ∨ s = .clear (looks + 1)
  | _ => True

namespace Lock

variable {l : Lock} {s : Standing}

/-- Who may write the lock and has written it is inside. -/
theorem heeds_take (hs : s.mayWrite = true) (now : Moment) :
    Heeds l.file (fun s c => c.Suits s) s (l.take now) := by
  have hwritten : ∀ text, Heeds l.file (fun s (result : Except FileFault Unit) =>
      result = .ok () → s = .inside) s (Files.save l.file text) := by
    intro text
    have hwrite : Heeds l.file (fun s (result : Except FileFault Unit) =>
        result = .ok () → s = .inside) s (Files.perform (.write l.file text.toUTF8)) := by
      intro answer
      rw [Exchange.touch?_write rfl]
      refine ⟨hs, ?_⟩
      rintro rfl
      exact Standing.write_true s
    refine heeds_bind (Q := fun s' _ => s' = s) ?_ ?_
    · unfold Files.makeParent
      split
      · exact rfl
      · exact fun _ => ⟨rfl, rfl⟩
    · rintro _ made rfl
      cases made with
      | error fault => exact fun heq => nomatch heq
      | ok _ => exact hwrite
  refine heeds_bind (hwritten _) fun s result hresult => ?_
  cases result with
  | error fault => trivial
  | ok _ => exact hresult rfl

/-- A claim heeds where it stands. -/
theorem heeds_begin (hs : s.isEarly = true) (now : Moment) :
    Heeds l.file (fun s c => c.Suits s) s (l.begin now) := by
  refine heeds_bind (Q := fun s found => s = if found then .found else .free) ?_ ?_
  · intro answer
    rw [Exchange.touch?_metadata rfl]
    refine ⟨rfl, ?_⟩
    cases s <;> cases answer <;> first | rfl | cases hs
  · rintro _ found rfl
    cases found with
    | false => exact heeds_take rfl now
    | true =>
        intro answer
        rw [Exchange.touch?_remove rfl]
        refine ⟨rfl, ?_⟩
        cases answer with
        | error fault => trivial
        | ok _ => exact Or.inl ⟨rfl, rfl⟩

/-- So does a look for the lock. -/
theorem heeds_poll (looks : Nat) (now : Moment) :
    Heeds l.file (fun s c => c.Suits s) (.looking looks) (l.poll looks now) := by
  have hlook : ∀ (s : Standing) (p : Path), s = .looking looks ∨ s = .clear looks →
      Heeds l.file (fun s found => found = false →
        (s = .looking looks ∧ p ≠ l.file) ∨ s = .clear looks) s (Files.pathExists p) := by
    intro s p hs answer
    by_cases hp : p = l.file
    · rw [Exchange.touch?_metadata hp]
      refine ⟨rfl, fun hmissing => Or.inr ?_⟩
      have hanswer : answer.isOk = false := hmissing
      rw [hanswer]
      rcases hs with rfl | rfl <;> rfl
    · rw [show Exchange.touch? l.file ⟨.files (.metadata p), answer⟩ = none from if_neg hp]
      exact ⟨rfl, fun _ => hs.imp_left fun hs => ⟨hs, hp⟩⟩
  refine heeds_bind (hlook _ l.stopFile (Or.inl rfl)) fun s stopped hs => ?_
  cases stopped with
  | true => trivial
  | false =>
      refine heeds_bind (hlook s l.file ((hs rfl).imp_left And.left)) fun s found hs => ?_
      cases found with
      | true => trivial
      | false =>
          obtain rfl : s = .clear looks := (hs rfl).resolve_left fun h => h.2 rfl
          by_cases hlast : looks ≤ 1
          · simp only [hlast, if_true]
            refine heeds_take ?_ now
            exact decide_eq_true hlast
          · simp only [hlast, if_false]
            refine Or.inr (congrArg Standing.clear ?_)
            omega

end Lock

/-! ## Watches -/

namespace Watch

/-- Whether a watch is in its loop: it has claimed the lock and has not ended. -/
def isInside (w : Watch) : Bool :=
  match w.phase with
  | .claiming _ _ => false
  | .ended _ => false
  | _ => true

/-- Whether a watch is at a phase that suits where it stands. -/
def Suits (w : Watch) (s : Standing) : Prop :=
  match w.phase with
  | .claiming looks _ => (s = .removed ∧ looks = Lock.looks) ∨ s = .clear (looks + 1)
  | .ended _ => True
  | _ => s = .inside

/-- A watch in its loop suits the standing of one that holds the lock. -/
theorem suits_inside {w : Watch} (h : w.isInside = true) : w.Suits .inside := by
  unfold isInside at h
  unfold Suits
  split at h
  · cases h
  · cases h
  · trivial

/-- A watch claims the lock, has ended, or is in its loop. -/
theorem Suits.phase {w : Watch} {s : Standing} (h : w.Suits s) :
    (∃ looks next, w.phase = .claiming looks next ∧
      ((s = .removed ∧ looks = Lock.looks) ∨ s = .clear (looks + 1))) ∨
      (∃ outcome, w.phase = .ended outcome) ∨ (w.isInside = true ∧ s = .inside) := by
  cases hphase : w.phase with
  | claiming looks next =>
      simp only [Suits, hphase] at h
      exact Or.inl ⟨looks, next, rfl, h⟩
  | ended outcome => exact Or.inr (Or.inl ⟨outcome, rfl⟩)
  | _ =>
      simp only [Suits, hphase] at h
      refine Or.inr (Or.inr ⟨?_, h⟩)
      simp only [isInside, hphase]

/-- Whether a program of a watch heeds where it stands, and leaves the watch where this suits. -/
def Heeds (job : Job) (s : Standing) (p : Program Change) : Prop :=
  p.Heeds job.lockFile (fun s change => change.1.job = job ∧ change.1.Suits s) s

variable {job : Job} {w : Watch} {s : Standing} {started : List (Nat × Task)}

theorem heeds_nothing (hw : w.job = job) (h : w.isInside = true) :
    Heeds job .inside (.done (w, started)) :=
  ⟨hw, suits_inside h⟩

/-! ### The end -/

/-- A text is saved without a file being removed. -/
theorem keepsFiles_save (p : Path) (text : String) :
    Asks (fun r => r.keepsFiles = true) (Files.save p text) := by
  refine asks_bind ?_ fun made => ?_
  · unfold Files.makeParent
    split
    · exact asks_done _
    · exact asks_perform rfl
  · cases made with
    | error fault => exact asks_done _
    | ok _ => exact asks_perform rfl

/-- So is the status of a monitor. -/
theorem keepsFiles_saveStatus (m : Monitor) :
    Asks (fun r => r.keepsFiles = true) (m.saveStatus : Program _) := by
  unfold Monitor.saveStatus
  split
  · refine asks_bind (keepsFiles_save _ _) fun saved => ?_
    cases saved <;> exact asks_done _
  · exact asks_done _

/-- A watch that ends removes the lock last. -/
theorem heeds_finish (hw : w.job = job) : Heeds job .inside w.finish := by
  refine heeds_bind (Standing.heeds_inside (keepsFiles_saveStatus _)) ?_
  rintro _ saved rfl answer
  have hlock : (lockOf w.job).file = job.lockFile := congrArg Job.lockFile hw
  rw [Exchange.touch?_remove hlock]
  exact ⟨rfl, hw, trivial⟩

/-- A watch that parts is in its loop until it has ended. -/
theorem heeds_part (hw : w.job = job) (now : Nat) : Heeds job .inside (w.part now) := by
  unfold part
  split
  · exact heeds_finish hw
  · exact heeds_ask (fun _ => rfl) fun _ => heeds_nothing hw rfl

/-- So is one that leaves. -/
theorem heeds_leave (hw : w.job = job) (now : Nat) : Heeds job .inside (w.leave now) := by
  unfold leave drain
  split
  · refine heeds_part ?_ now
    exact hw
  · exact heeds_nothing hw rfl

/-- A watch that resumes leaves its loop only when it was told to. -/
theorem heeds_resume (hw : w.job = job) (h : w.isInside = true) (now : Nat) :
    Heeds job .inside (w.resume now) := by
  unfold resume
  split
  · exact heeds_leave hw now
  · exact heeds_nothing hw h

/-- More tasks that are started make no difference. -/
theorem Heeds.starting {p : Program Change} (h : Heeds job s p) (started : List (Nat × Task)) :
    Heeds job s (p >>= fun r => .done (r.1, started ++ r.2)) :=
  heeds_bind h fun _ _ hr => hr

/-! ### In the loop -/

/-- A watch that saves its status is in its loop afterwards. -/
theorem heeds_saveAndWatch {f : Watch → Program Change} (hw : w.job = job)
    (hf : ∀ w' : Watch, w'.job = job → w'.isInside = true → Heeds job .inside (f w')) :
    Heeds job .inside (w.saveAndWatch >>= f) := by
  refine heeds_bind (Q := fun s w' => s = .inside ∧ w'.job = job ∧ w'.isInside = true) ?_ ?_
  · refine heeds_bind (Standing.heeds_inside (keepsFiles_saveStatus _)) ?_
    rintro _ saved rfl
    exact ⟨rfl, hw, rfl⟩
  · rintro _ w' ⟨rfl, hjob, hinside⟩
    exact hf w' hjob hinside

/-- What is dispatched has nothing to do with the lock. -/
theorem heeds_dispatchReady (hw : w.job = job) (ready : List Item) (now : Nat) :
    Heeds job .inside (w.dispatchReady ready now) := by
  simp only [dispatchReady]
  split
  · refine heeds_saveAndWatch hw fun w' hjob hinside => ?_
    refine (heeds_resume ?_ ?_ now).starting _
    · exact hjob
    · exact hinside
  · exact heeds_nothing hw rfl

/-- A look asks for the stop file, writes the lock again and goes through the directories. -/
theorem heeds_look (hw : w.job = job) (now : Nat) : Heeds job .inside (w.look now) := by
  have hstop : Asks (fun r => r.keepsFiles = true) (Files.pathExists w.job.stopFile) :=
    asks_bind (asks_perform rfl) fun _ => asks_done _
  refine heeds_bind (Standing.heeds_inside hstop) ?_
  rintro _ stopped rfl
  cases stopped with
  | true =>
      refine heeds_leave ?_ now
      exact hw
  | false =>
      refine heeds_ask (fun _ => rfl) fun moment => ?_
      refine heeds_bind (Standing.heeds_inside (keepsFiles_save _ _)) ?_
      rintro _ refreshed rfl
      refine heeds_bind (Standing.heeds_inside
        (Monitor.asks_scan (fun _ => rfl) (fun _ => rfl) w.monitor)) ?_
      rintro _ found rfl
      refine heeds_dispatchReady ?_ _ now
      exact hw

/-- Observers are informed while the lock is held. -/
theorem heeds_inform (hw : w.job = job) (h : w.isInside = true) (now : Nat) :
    Heeds job .inside (w.inform now) := by
  simp only [inform]
  split
  · exact heeds_nothing hw h
  · refine heeds_ask (fun _ => rfl) fun moment => ?_
    split
    · exact heeds_nothing hw h
    · exact heeds_nothing hw rfl

/-- What follows a dispatch that has ended heeds where the watch stands. -/
theorem heeds_goOn (hw : w.job = job) (h : w.isInside = true) (now : Nat) :
    Heeds job .inside (w.goOn now) := by
  simp only [goOn]
  split
  · refine heeds_saveAndWatch hw fun w' hjob hinside => ?_
    exact (heeds_resume hjob hinside now).starting _
  · split
    · refine (heeds_part ?_ now).starting _
      exact hw
    · exact heeds_nothing hw h

/-- What observers have answered is noted while the lock is held. -/
theorem heeds_onInformed (hw : w.job = job) (h : w.isInside = true) (task : Nat)
    (receipts : List Bulletin.Receipt) (now : Nat) :
    Heeds job .inside (w.onInformed task receipts now) := by
  simp only [onInformed]
  split
  · refine heeds_resume ?_ ?_ now
    · exact hw
    · rfl
  · refine heeds_finish ?_
    exact hw
  · exact heeds_nothing hw h

/-- A watch that is stopped holds the lock until it is done. -/
theorem heeds_onStop (hw : w.job = job) (h : w.isInside = true) (now : Nat) :
    Heeds job .inside (w.onStop now) := by
  simp only [onStop]
  split
  · next hphase =>
      rw [isInside, hphase] at h
      cases h
  · refine heeds_leave ?_ now
    exact hw
  · refine heeds_leave ?_ now
    exact hw
  · exact heeds_nothing hw h

/-- In its loop a watch heeds where it stands, whatever the event. -/
theorem heeds_handle (hw : w.job = job) (h : w.isInside = true) (now : Nat) (e : Event) :
    Heeds job .inside (w.handle now e) := by
  have hnothing : Heeds job .inside (.done (w, [])) := heeds_nothing hw h
  cases e with
  | stop => exact heeds_onStop hw h now
  | dispatched task result =>
      simp only [handle, onDispatched_eq]
      split
      · refine heeds_ask (fun _ => rfl) fun moment => ?_
        refine heeds_goOn ?_ ?_ now
        · exact hw
        · exact h
      · exact hnothing
  | informed task receipts =>
      simp only [handle]
      split
      · exact heeds_onInformed hw h task receipts now
      · exact hnothing
  | claimTime =>
      simp only [handle]
      split
      · next hphase =>
          rw [isInside, hphase] at h
          cases h
      · exact hnothing
  | lookTime =>
      simp only [handle]
      split
      · exact heeds_look hw now
      · exact hnothing
  | informTime =>
      simp only [handle]
      split
      · exact heeds_inform hw h now
      · exact hnothing
  | partTime =>
      simp only [handle]
      split
      · exact heeds_finish hw
      · exact hnothing

/-! ### Claims -/

/-- What a claim comes to suits where the watch stands. -/
theorem heeds_claim {c : Lock.Claim} (hw : w.job = job) (hc : c.Suits s) (now : Nat) :
    Heeds job s (w.claim c now) := by
  cases c with
  | held =>
      obtain rfl : s = .inside := hc
      refine heeds_resume ?_ ?_ now
      · exact hw
      · rfl
  | waiting looks => exact ⟨hw, hc⟩
  | yielded => exact ⟨hw, trivial⟩
  | refused fault => exact ⟨hw, trivial⟩

/-- A watch that looks for the lock again heeds where it stands. -/
theorem heeds_claimTime {looks next : Nat} (hw : w.job = job)
    (hphase : w.phase = .claiming looks next) (now : Nat) :
    Heeds job (.looking looks) (w.handle now .claimTime) := by
  subst hw
  simp only [handle, hphase]
  refine heeds_ask (fun _ => rfl) fun moment => ?_
  exact heeds_bind (Lock.heeds_poll looks moment) fun s c hc => heeds_claim rfl hc now

/-! ### The beginning -/

section Looks

theorem isLook_pathExists (p : Path) :
    Asks (fun r => r.isLook = true) (Files.pathExists p) :=
  asks_bind (asks_perform rfl) fun _ => asks_done _

theorem isLook_isDirectory (p : Path) :
    Asks (fun r => r.isLook = true) (Files.isDirectory p) := by
  refine asks_bind (asks_perform rfl) fun info => ?_
  cases info <;> exact asks_done _

/-- Whether a path is no file is found by a look. -/
theorem isLook_isBadFile (p : Path) :
    Asks (fun r => r.isLook = true) (Job.isBadFile p) := by
  unfold Job.isBadFile
  split
  · exact asks_done _
  · exact isLook_isDirectory p

/-- A job is checked by looks alone. -/
theorem isLook_check (ctx : Context) (job : Job) :
    Asks (fun r => r.isLook = true) (check ctx job) := by
  refine asks_bind ?_ fun checked => ?_
  · have hfiles : Asks (fun r => r.isLook = true) (job.checkFiles : Program _) := by
      refine asks_bind (isLook_isBadFile _) fun bad => ?_
      split
      · exact asks_done _
      · refine asks_bind (isLook_isBadFile _) fun bad => ?_
        split <;> exact asks_done _
    unfold Job.check
    split
    · exact asks_done _
    · split
      · exact asks_done _
      · split
        · exact asks_done _
        · split
          · exact asks_done _
          · exact hfiles
  · cases checked with
    | error fault => exact asks_done _
    | ok _ =>
        dsimp only
        split
        · exact asks_done _
        · split <;> exact asks_done _

/-- The first directory that is missing is found by looks. -/
theorem isLook_firstMissing (directories : List Path) :
    Asks (fun r => r.isLook = true) (firstMissing directories) := by
  induction directories with
  | nil => exact asks_done _
  | cons p rest ih =>
      refine asks_bind (isLook_isDirectory p) fun found => ?_
      cases found with
      | true => exact ih
      | false => exact asks_done _

/-- The status is loaded by looks alone. -/
theorem isLook_load (job : Job) (today : Date) (zone : Zone) :
    Asks (fun r => r.isLook = true) (Monitor.load job today zone) := by
  have hread : Asks (fun r => r.isLook = true)
      (Monitor.readStatus? job.statusFile today : Program _) := by
    refine asks_bind (isLook_pathExists _) fun found => ?_
    cases found with
    | false => exact asks_done _
    | true =>
        refine asks_bind (asks_bind (asks_perform rfl) fun bytes => ?_) fun text => ?_
        · cases bytes with
          | error fault => exact asks_done _
          | ok bytes =>
              dsimp only
              split <;> exact asks_done _
        · cases text <;> exact asks_done _
  simp only [Monitor.load]
  split
  · exact asks_done _
  · refine asks_bind hread fun state => ?_
    cases state <;> exact asks_done _

end Looks

/-- What is true at the end of the beginning of a watch. -/
def Begun (job : Job) (s : Standing) (result : Except Outcome Change) : Prop :=
  ∀ change, result = .ok change → change.1.job = job ∧ change.1.Suits s

/-- A watch that begins heeds where it stands, from its first look for the lock on. -/
theorem heeds_begin (zone : Zone) (job : Job) (now : Nat) (hs : s.isEarly = true) :
    (begin zone job now).Heeds job.lockFile (Begun job) s := by
  refine heeds_ask (fun _ => rfl) fun moment => ?_
  refine heeds_bind (Standing.heeds_looks (isLook_load job _ _) hs) fun s loaded hs => ?_
  cases loaded with
  | error fault => exact fun _ heq => nomatch heq
  | ok m =>
      refine heeds_ask (fun _ => rfl) fun moment => ?_
      refine heeds_bind (Lock.heeds_begin (l := lockOf job) hs moment) fun s c hc => ?_
      have hclaim : Heeds job s (claim { job, monitor := m, phase := .claiming 0 now } c now) := by
        refine heeds_claim ?_ hc now
        rfl
      refine heeds_bind hclaim fun s change hchange => ?_
      rintro _ ⟨⟩
      exact hchange

/-- A watch that begins heeds where it stands. -/
theorem heeds_start (ctx : Context) (job : Job) (now : Nat) :
    (start ctx job now).Heeds job.lockFile (Begun job) .outside := by
  have hfailed : ∀ s (outcome : Outcome), Begun job s (.error outcome) :=
    fun _ _ _ heq => nomatch heq
  refine heeds_bind (Standing.heeds_looks (isLook_check ctx job) rfl) fun s checked hs => ?_
  cases checked with
  | error fault => exact hfailed _ _
  | ok _ =>
      refine heeds_bind (Standing.heeds_looks (isLook_pathExists _) hs) fun s stopped hs => ?_
      cases stopped with
      | true => exact hfailed _ _
      | false =>
          refine heeds_bind (Standing.heeds_looks (isLook_firstMissing _) hs)
            fun s missing hs => ?_
          cases missing with
          | some p => exact hfailed _ _
          | none => exact heeds_begin _ job now hs

end Watch

end Courier
