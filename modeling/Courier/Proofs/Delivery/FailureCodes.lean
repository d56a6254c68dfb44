import Courier.Proofs.Delivery.Sending
import Courier.Proofs.Delivery.Callees

/-!
# The codes of failures

A dealing with a partner that failed is reported with a code.  Either the courier chose the code
itself, and then it is one of a few, or the transport reported a failure with this code.  Nothing
keeps the transport from reporting a failure with a code that stands for a success, and then the
dealing is reported with it as well.

Main definitions:

- `Exchange.failureCode?` is the code of a failure that the transport reports.
- `Outcome.ownCodes` are the codes that the courier chooses itself.
- `Dealing` is a dealing that may end with an outcome.

Main statements:

- The code of a failure is one of the courier's own, or the transport reported a failure with it
  (`Dealing.code_of_failed`).
-/

namespace Courier

open Program

/-! ## Codes -/

/-- The code of a failure that the transport reports. -/
def Exchange.failureCode? : Exchange → Option ResultCode
  | ⟨.connect _, .fatal code _⟩ => some code
  | ⟨.complete _ _, .ok completion⟩ => if completion.success then none else some completion.code
  | ⟨.complete _ _, .error fault⟩ => some fault.code
  | ⟨.send _ _ _, .error fault⟩ => some fault.code
  | ⟨.writable _, .error fault⟩ => some fault.code
  | ⟨.ask _ _ _, .error fault⟩ => some fault.code
  | _ => none

/-- Whether an exchange does not report a failure with a code. -/
def Exchange.Spares (c : ResultCode) (x : Exchange) : Prop :=
  x.failureCode? ≠ some c

namespace Outcome

/-- The codes that the courier chooses itself for a failure. -/
def ownCodes : List ResultCode :=
  [.internal, .connectionImpossible, .queryRemotelyUnknown, .queryAlreadyFinished, .transferError]

/-- Whether an outcome is not a failure with a code. -/
def Avoids (c : ResultCode) (o : Outcome) : Prop :=
  o.success = false → o.code ≠ c

variable {c code : ResultCode} {cause : String} {record : Option Record} {o : Outcome}

theorem avoids_failed (h : code ≠ c) : Avoids c (.failed code cause record) :=
  fun _ => h

/-- An outcome that is no failure avoids every code. -/
theorem avoids_of_success (h : o.success = true) : o.Avoids c := by
  intro hfailed
  cases h.symm.trans hfailed

/-- A failure with a code of the courier's own. -/
theorem avoids_own (hc : c ∉ ownCodes) (h : code ∈ ownCodes) :
    Avoids c (.failed code cause record) := by
  refine avoids_failed ?_
  rintro rfl
  exact hc h

end Outcome

/-- Whether a result is not the refusal of a transfer with a code. -/
def Outcome.AvoidsIn {α : Type} (c : ResultCode) (r : Except Outcome α) : Prop :=
  ∀ o, r = .error o → o.Avoids c

/-- Whether a result is not a fault that is reported with a code. -/
def SessionFault.AvoidsIn {α : Type} (c : ResultCode) (r : Except SessionFault α) : Prop :=
  ∀ fault, r = .error fault → fault.code ≠ c

namespace Outcome

variable {α : Type} {c code : ResultCode} {cause : String} {record : Option Record} {o : Outcome}

theorem avoidsIn_ok (a : α) : AvoidsIn c (.ok a) := by
  rintro o ⟨⟩

theorem avoidsIn_error (h : o.Avoids c) : AvoidsIn c (.error o : Except Outcome α) := by
  rintro _ ⟨⟩
  exact h

/-- The outcome that a transfer is refused with avoids the code. -/
theorem AvoidsIn.avoids (h : AvoidsIn c (.error o : Except Outcome α)) : o.Avoids c :=
  h o rfl

/-- A refusal with a code of the courier's own. -/
theorem avoidsIn_own (hc : c ∉ ownCodes) (h : code ∈ ownCodes) :
    AvoidsIn c (.error (.failed code cause record) : Except Outcome α) :=
  avoidsIn_error (avoids_own hc h)

end Outcome

open Outcome

variable {c : ResultCode}

/-! ## Transfers -/

namespace Preparation

/-- A record that cannot be entered is refused with a code of the courier's own. -/
theorem yields_createRecord (hc : c ∉ ownCodes) (ctx : Context) (order : Order)
    (partner : Partner) (requester : String) (kind : Kind) :
    Yields (Exchange.Spares c) (AvoidsIn c) (createRecord ctx order partner requester kind) := by
  unfold createRecord
  split
  · exact yields_done (avoidsIn_own hc (by decide))
  · split
    · exact yields_done (avoidsIn_own hc (by decide))
    · dsimp only
      split
      all_goals
        refine yields_andThen fun size => yields_andThen fun now => yields_andThen fun created => ?_
        cases created with
        | ok record => exact yields_done (avoidsIn_ok record)
        | error fault => exact yields_done (avoidsIn_own hc (by decide))

/-- So is a filed record that cannot be taken up, as when it is done. -/
theorem yields_recoverRecord (hc : c ∉ ownCodes) (order : Order) (key : Record.Key)
    (kind : Kind) :
    Yields (Exchange.Spares c) (AvoidsIn c) (recoverRecord order key kind) := by
  refine yields_andThen fun found => ?_
  cases found with
  | none => exact yields_done (avoidsIn_own hc (by decide))
  | some record =>
      dsimp only
      split
      · exact yields_done (avoidsIn_own hc (by decide))
      · split
        · refine yields_andThen fun now => yields_andThen fun r => yields_andThen fun updated => ?_
          cases updated with
          | ok => exact yields_done (avoidsIn_ok r)
          | error fault => exact yields_done (avoidsIn_own hc (by decide))
        · refine yields_andThen fun r => yields_andThen fun updated => ?_
          cases updated with
          | ok => exact yields_done (avoidsIn_ok r)
          | error fault => exact yields_done (avoidsIn_own hc (by decide))

theorem yields_markTransient (hc : c ∉ ownCodes) (kind : Kind) (record : Record) :
    Yields (Exchange.Spares c) (AvoidsIn c) (markTransient kind record) := by
  unfold markTransient
  split
  · refine yields_andThen fun updated => ?_
    cases updated with
    | ok => exact yields_done (avoidsIn_ok _)
    | error fault => exact yields_done (avoidsIn_own hc (by decide))
  · exact yields_done (avoidsIn_ok _)

/-- An order is refused with a code of the courier's own. -/
theorem yields_prepare (hc : c ∉ ownCodes) (ctx : Context) (order : Order) (kind : Kind) :
    Yields (Exchange.Spares c) (AvoidsIn c) (prepare ctx order kind) := by
  have hfind : ∀ partner,
      Yields (Exchange.Spares c) (AvoidsIn c) (findRecord ctx order partner kind) := by
    intro partner
    unfold findRecord
    split
    · exact yields_recoverRecord hc _ _ _
    · exact yields_createRecord hc _ _ _ _ _
  unfold prepare
  split
  · exact yields_done (avoidsIn_own hc (by decide))
  · refine yields_bind (hfind _) fun found hfound => ?_
    cases found with
    | error outcome => exact yields_done (avoidsIn_error hfound.avoids)
    | ok record =>
        refine yields_bind (yields_markTransient hc kind record) fun marked hmarked => ?_
        cases marked with
        | error outcome => exact yields_done (avoidsIn_error hmarked.avoids)
        | ok record => exact yields_done (avoidsIn_ok _)

end Preparation

namespace Delivery

/-- A transfer is ended in error with the code that is given. -/
theorem yields_terminate {code : ResultCode} (h : code ≠ c) (p : Prepared) (cause : String) :
    Yields (Exchange.Spares c) (Avoids c) (terminate p code cause) := by
  refine yields_andThen fun record => ?_
  split
  · exact yields_andThen fun _ => yields_done (avoids_failed h)
  · exact yields_done (avoids_failed h)

/-- A transfer that is concluded went well. -/
theorem yields_conclude (p : Prepared) (rank : Option Nat) :
    Yields (Exchange.Spares c) (Avoids c) (conclude p rank) := by
  refine yields_andThen fun record => yields_andThen fun now => yields_andThen fun _ => ?_
  split
  · exact yields_andThen fun _ => yields_done (avoids_of_success rfl)
  · exact yields_done (avoids_of_success rfl)

/-- The attempts to reach a partner end in error with a code of the courier's own or with that of
a refusal. -/
theorem yields_tryConnect (hc : c ∉ ownCodes) (policy : Policy) (through : Through)
    (p : Prepared) (reason : String) (attempts overloads : Nat) :
    Yields (Exchange.Spares c) (AvoidsIn c)
      (tryConnect policy through p reason attempts overloads) := by
  have hends : ∀ {code : ResultCode} (p : Prepared) (cause : String), code ≠ c →
      Yields (Exchange.Spares c) (AvoidsIn c) (terminate p code cause >>= fun outcome =>
        .done (.error outcome : Except Outcome (Session × Prepared))) := fun p cause h =>
    yields_bind (yields_terminate h p cause) fun _ houtcome => yields_done (avoidsIn_error houtcome)
  have hunreached : ResultCode.connectionImpossible ≠ c := by
    rintro rfl
    exact hc (by decide)
  induction p, reason, attempts, overloads using tryConnect_induction with
  | spent p reason overloads =>
      rw [tryConnect]
      exact hends _ _ hunreached
  | attempt p reason left overloads again patient =>
      rw [tryConnect]
      refine yields_ask fun result hresult => ?_
      cases result with
      | connected session =>
          exact yields_andThen fun started => yields_done (avoidsIn_ok _)
      | fatal code message =>
          refine hends _ _ ?_
          rintro rfl
          exact hresult rfl
      | pending reason =>
          dsimp only
          split
          · exact yields_andThen fun delay => yields_andThen fun _ => again reason
          · exact again reason
      | overloaded =>
          refine yields_andThen fun noted => ?_
          cases overloads with
          | zero => exact hends _ _ hunreached
          | succ fewer => exact yields_andThen fun _ => patient noted reason fewer rfl

/-- A session that is under way ends the transfer in error with a code that was reported. -/
theorem yields_finish (policy : Policy) (session : Session) (p : Prepared) :
    Yields (Exchange.Spares c) (Avoids c) (finish policy session p) := by
  refine yields_ask fun completion hcompletion => yields_andThen fun _ => ?_
  cases completion with
  | error fault =>
      refine yields_terminate ?_ _ _
      rintro rfl
      exact hcompletion rfl
  | ok completion =>
      dsimp only
      split
      · exact yields_conclude _ _
      · next hfailed =>
          refine yields_terminate ?_ _ _
          rintro rfl
          exact hcompletion (if_neg hfailed)

/-- So does a transfer that is carried out. -/
theorem yields_carryOut (hc : c ∉ ownCodes) (ctx : Context) (order : Order)
    (kind : Preparation.Kind) (through : Through) :
    Yields (Exchange.Spares c) (Avoids c) (carryOut ctx order kind through) := by
  refine yields_bind (Preparation.yields_prepare hc ctx order kind) fun prepared hprepared => ?_
  cases prepared with
  | error outcome => exact yields_done hprepared.avoids
  | ok p =>
      refine yields_bind (yields_tryConnect hc _ _ _ _ _ _) fun opened hopened => ?_
      cases opened with
      | error outcome => exact yields_done hopened.avoids
      | ok opened => exact yields_finish _ _ _

/-- An order that is only filed is refused with a code of the courier's own. -/
theorem yields_submit (hc : c ∉ ownCodes) (ctx : Context) (order : Order) :
    Yields (Exchange.Spares c) (Avoids c) (submit ctx order) := by
  refine yields_bind (Preparation.yields_prepare hc ctx order .submit) fun prepared hprepared => ?_
  cases prepared with
  | error outcome => exact yields_done hprepared.avoids
  | ok p => exact yields_done (avoids_of_success rfl)

end Delivery

/-! ## Streams -/

namespace Stream.Sender

/-- A block that is not sent gives the fault that the session has reported. -/
theorem yields_sendBlock (session : Session) (block : Block) :
    Yields (Exchange.Spares c) (SessionFault.AvoidsIn c) (sendBlock session block) := by
  refine yields_ask fun writable hwritable => ?_
  cases writable with
  | error fault =>
      refine yields_done ?_
      rintro _ ⟨⟩ rfl
      exact hwritable rfl
  | ok =>
      intro sent hsent
      refine yields_done ?_
      rintro fault rfl rfl
      exact hsent rfl

/-- A stream is broken off with the code that is given. -/
theorem yields_abort {code : ResultCode} (h : code ≠ c) (a : Active) (cause : String) :
    Yields (Exchange.Spares c) (Avoids c) (abort a code cause) :=
  yields_andThen fun _ => yields_andThen fun _ => Delivery.yields_terminate h _ _

theorem yields_acknowledge (a : Active) (lastRank : Nat) (completion : Completion) :
    Yields (Exchange.Spares c) (Avoids c) (acknowledge a lastRank completion) := by
  refine yields_ask fun sent hsent => ?_
  cases sent with
  | error fault =>
      refine yields_abort ?_ _ _
      rintro rfl
      exact hsent rfl
  | ok => exact yields_andThen fun _ => Delivery.yields_conclude _ _

/-- The end of a stream fails with a code that was reported for it. -/
theorem yields_conclude (ctx : Context) (a : Active) :
    Yields (Exchange.Spares c) (Avoids c) (conclude ctx a) := by
  refine yields_ask fun sent hsent => ?_
  cases sent with
  | error fault =>
      refine yields_abort ?_ _ _
      rintro rfl
      exact hsent rfl
  | ok =>
      refine yields_ask fun completion hcompletion => ?_
      cases completion with
      | error fault =>
          refine yields_abort ?_ _ _
          rintro rfl
          exact hcompletion rfl
      | ok completion =>
          dsimp only
          split
          · exact yields_acknowledge _ _ _
          · next hfailed =>
              refine yields_abort ?_ _ _
              rintro rfl
              exact hcompletion (if_neg hfailed)

theorem yields_ensureEnd (a : Active) :
    Yields (Exchange.Spares c) (SessionFault.AvoidsIn c) (ensureEnd a) := by
  unfold ensureEnd
  split
  · refine yields_done ?_
    rintro fault ⟨⟩
  · refine yields_bind (yields_sendBlock _ _) fun sent hsent => ?_
    cases sent with
    | error fault =>
        refine yields_done ?_
        rintro _ ⟨⟩
        exact hsent fault rfl
    | ok =>
        refine yields_done ?_
        rintro fault ⟨⟩

/-- A stream is begun with the same codes as a transfer. -/
theorem yields_initiate (hc : c ∉ ownCodes) (ctx : Context) (s : Sender) :
    Yields (Exchange.Spares c) (fun r => AvoidsIn c r.1) (initiate ctx s) := by
  unfold initiate
  split
  · exact yields_done (avoidsIn_own hc (by decide))
  · refine yields_bind (Preparation.yields_prepare hc _ _ _) fun prepared hprepared => ?_
    cases prepared with
    | error outcome => exact yields_done (avoidsIn_error hprepared.avoids)
    | ok p =>
        refine yields_bind (Delivery.yields_tryConnect hc _ _ _ _ _ _) fun opened hopened => ?_
        cases opened with
        | error outcome => exact yields_done (avoidsIn_error hopened.avoids)
        | ok opened => exact yields_done (avoidsIn_ok _)

/-- It is ended with a code of the courier's own, or with one that was reported. -/
theorem yields_finalize (hc : c ∉ ownCodes) (ctx : Context) (s : Sender) :
    Yields (Exchange.Spares c) (fun r => r.1.Avoids c) (finalize ctx s) := by
  unfold finalize
  split
  · exact yields_done (avoids_own hc (by decide))
  · refine yields_bind (yields_ensureEnd _) fun ended hended => ?_
    cases ended with
    | error fault =>
        exact yields_bind (yields_abort (hended fault rfl) _ _) fun _ houtcome =>
          yields_done houtcome
    | ok a => exact yields_bind (yields_conclude ctx a) fun _ houtcome => yields_done houtcome

/-- A stream that its caller gives up fails with a code of the courier's own. -/
theorem yields_giveUp (hc : c ∉ ownCodes) (s : Sender) (cause : String) :
    Yields (Exchange.Spares c) (fun r => r.1.Avoids c) (giveUp s cause) := by
  have herror : ResultCode.transferError ≠ c := by
    rintro rfl
    exact hc (by decide)
  unfold giveUp
  split
  · exact yields_done (avoids_own hc (by decide))
  · exact yields_bind (yields_abort herror _ _) fun _ houtcome => yields_done houtcome

/-- The outcome that a call gives back. -/
def Reply.outcome? : Reply → Option Outcome
  | .refused outcome => some outcome
  | .initiated (.error outcome) => some outcome
  | .ended outcome => some outcome
  | _ => none

/-- No call of a sender, in whatever state it is, fails with the code. -/
theorem yields_answer (hc : c ∉ ownCodes) (ctx : Context) (s : Sender) (call : Call) :
    Yields (Exchange.Spares c) (fun r => ∀ o ∈ r.1.outcome?, o.Avoids c) (answer ctx s call) := by
  cases call with
  | run =>
      refine yields_done ?_
      rintro _ ⟨⟩
      exact avoids_own hc (by decide)
  | initiate =>
      refine yields_bind (yields_initiate hc ctx s) fun r hr => yields_done ?_
      obtain ⟨result, s'⟩ := r
      cases result with
      | error outcome =>
          rintro _ ⟨⟩
          exact hr.avoids
      | ok =>
          rintro _ ⟨⟩
  | block data =>
      refine yields_done ?_
      rintro _ ⟨⟩
  | write block =>
      refine yields_andThen fun r => yields_done ?_
      rintro _ ⟨⟩
  | finalize =>
      refine yields_bind (yields_finalize hc ctx s) fun r hr => yields_done ?_
      rintro _ ⟨⟩
      exact hr
  | giveUp cause =>
      refine yields_bind (yields_giveUp hc s cause) fun r hr => yields_done ?_
      rintro _ ⟨⟩
      exact hr

end Stream.Sender

/-! ## Interventions -/

namespace Connection

/-- The attempts to open a session for a question end as those for a transfer do. -/
theorem yields_tryOpen (hc : c ∉ ownCodes) (policy : Policy) (partner : Partner) (left : Nat)
    (reason : String) :
    Yields (Exchange.Spares c) (SessionFault.AvoidsIn c)
      (tryOpen policy partner left reason) := by
  induction left generalizing reason with
  | zero =>
      refine yields_done ?_
      rintro _ ⟨⟩ hcode
      have hunreached : ResultCode.connectionImpossible = c := hcode
      rw [← hunreached] at hc
      exact hc (by decide)
  | succ left ih =>
      refine yields_ask fun result hresult => ?_
      cases result with
      | connected session =>
          refine yields_done ?_
          rintro fault ⟨⟩
      | fatal code message =>
          refine yields_done ?_
          rintro _ ⟨⟩ rfl
          exact hresult rfl
      | pending reason =>
          dsimp only
          split
          · exact yields_andThen fun delay => yields_andThen fun _ => ih _
          · exact ih _
      | overloaded =>
          dsimp only
          split
          · exact yields_andThen fun _ => ih _
          · exact ih _

/-- A question that has no answer gives the code of a fault that was reported. -/
theorem yields_exchange (hc : c ∉ ownCodes) (policy : Policy) (partner : Partner)
    (packet : Packet) :
    Yields (Exchange.Spares c) (SessionFault.AvoidsIn c) (exchange policy partner packet) := by
  refine yields_bind (yields_tryOpen hc _ _ _ _) fun opened hopened => ?_
  cases opened with
  | error fault =>
      refine yields_done ?_
      rintro _ ⟨⟩
      exact hopened fault rfl
  | ok session =>
      refine yields_ask fun answer hanswer => yields_andThen fun _ => yields_done ?_
      rintro fault rfl rfl
      exact hanswer rfl

end Connection

namespace Intervention

theorem yields_adopt (hc : c ∉ ownCodes) (key : Record.Key) (record : Record) :
    Yields (Exchange.Spares c) (AvoidsIn c) (adopt key record) := by
  unfold adopt
  split
  · exact yields_done (avoidsIn_own hc (by decide))
  · split
    · exact yields_done (avoidsIn_own hc (by decide))
    · refine yields_andThen fun now => yields_andThen fun inserted => ?_
      cases inserted with
      | ok => exact yields_done (avoidsIn_ok _)
      | error fault => exact yields_done (avoidsIn_own hc (by decide))

theorem yields_locate (hc : c ∉ ownCodes) (ctx : Context) (key : Record.Key) (peer : Partner) :
    Yields (Exchange.Spares c) (AvoidsIn c) (locate ctx key peer) := by
  refine yields_andThen fun found => ?_
  cases found with
  | some record => exact yields_done (avoidsIn_ok record)
  | none =>
      dsimp only
      split
      · exact yields_done (avoidsIn_own hc (by decide))
      · refine yields_andThen fun described => ?_
        cases described with
        | error fault => exact yields_done (avoidsIn_own hc (by decide))
        | ok record => exact yields_adopt hc _ _

/-- A record that cannot be found is refused with a code of the courier's own. -/
theorem yields_find (hc : c ∉ ownCodes) (ctx : Context) (specialId : Int)
    (requested requester : String) :
    Yields (Exchange.Spares c) (AvoidsIn c) (find ctx specialId requested requester) := by
  unfold find
  split
  · next refused hresolve =>
      refine yields_done (avoidsIn_error ?_)
      unfold resolve at hresolve
      dsimp only at hresolve
      split at hresolve
      · obtain rfl := Except.error.inj hresolve
        exact avoids_own hc (by decide)
      · split at hresolve
        · obtain rfl := Except.error.inj hresolve
          exact avoids_own hc (by decide)
        · cases hresolve
  · refine yields_bind (yields_locate hc _ _ _) fun located hlocated => ?_
    cases located with
    | error outcome => exact yields_done (avoidsIn_error hlocated.avoids)
    | ok record => exact yields_done (avoidsIn_ok _)

theorem yields_interpretInterrupt (hc : c ∉ ownCodes) (action : Interrupt) (record : Record)
    (answer : Answer) :
    Yields (Exchange.Spares c) (Avoids c) (interpretInterrupt action record answer) := by
  unfold interpretInterrupt
  split
  · exact yields_andThen fun _ => yields_done (avoids_of_success rfl)
  · split
    · exact yields_done (avoids_of_success rfl)
    · exact yields_done (avoids_own hc (by decide))

/-- An interruption fails with a code of the courier's own, or with that of a fault. -/
theorem yields_interrupt (hc : c ∉ ownCodes) (ctx : Context) (action : Interrupt)
    (specialId : Int) (requested requester : String) :
    Yields (Exchange.Spares c) (Avoids c)
      (interrupt ctx action specialId requested requester) := by
  refine yields_bind (yields_find hc _ _ _ _) fun found hfound => ?_
  cases found with
  | error outcome => exact yields_done hfound.avoids
  | ok found =>
      dsimp only
      split
      · exact yields_done (avoids_of_success rfl)
      · split
        · exact yields_andThen fun _ => yields_done (avoids_of_success rfl)
        · refine yields_bind (Connection.yields_exchange hc _ _ _) fun reply hreply => ?_
          cases reply with
          | error fault => exact yields_done (avoids_failed (hreply fault rfl))
          | ok answer => exact yields_interpretInterrupt hc _ _ _

/-- What a partner refuses is reported with a code of the courier's own. -/
theorem avoids_interpretRestart (hc : c ∉ ownCodes) (record : Record) (answer : Answer) :
    (interpretRestart record answer).Avoids c := by
  unfold interpretRestart
  split
  · dsimp only
    split
    · exact avoids_of_success rfl
    · exact avoids_of_success rfl
  · exact avoids_own hc (by decide)

theorem yields_restartLocally (hc : c ∉ ownCodes) (ctx : Context) (record : Record)
    (time : Option Calendar.Timestamp) :
    Yields (Exchange.Spares c) (Avoids c) (restartLocally ctx record time) := by
  unfold restartLocally
  split
  · exact yields_done (avoids_own hc (by decide))
  · refine yields_bind (Delivery.yields_carryOut hc _ _ _ _) fun outcome houtcome => ?_
    split
    · exact yields_done (avoids_of_success rfl)
    · exact yields_done houtcome

/-- A restart fails as an interruption does, or as the transfer that it runs. -/
theorem yields_restart (hc : c ∉ ownCodes) (ctx : Context) (specialId : Int)
    (requested requester : String) (time : Option Calendar.Timestamp) :
    Yields (Exchange.Spares c) (Avoids c) (restart ctx specialId requested requester time) := by
  refine yields_bind (yields_find hc _ _ _ _) fun found hfound => ?_
  cases found with
  | error outcome => exact yields_done hfound.avoids
  | ok found =>
      dsimp only
      split
      · exact yields_done (avoids_of_success rfl)
      · split
        · split
          · exact yields_restartLocally hc _ _ _
          · exact yields_done (avoids_own hc (by decide))
        · refine yields_bind (Connection.yields_exchange hc _ _ _) fun reply hreply => ?_
          cases reply with
          | error fault => exact yields_done (avoids_failed (hreply fault rfl))
          | ok answer => exact yields_done (avoids_interpretRestart hc _ _)

end Intervention

/-! ## Dealings -/

/-- A dealing with a partner that may end with an outcome. -/
inductive Dealing where
  | run (order : Order)
  | submit (order : Order)
  | receive (order : Order)
  /-- One call of the sender of a stream, whatever the sender was through before. -/
  | call (s : Stream.Sender) (call : Stream.Sender.Call)
  | intervene (directive : Intervention.Directive)

namespace Dealing

/-- What a dealing does, and the outcome that it gives back. -/
def program (ctx : Context) : Dealing → Program (Option Outcome)
  | run order => some <$> Delivery.run ctx order
  | submit order => some <$> Delivery.submit ctx order
  | receive order => some <$> Stream.receive ctx order
  | call s c => (fun r => r.1.outcome?) <$> s.answer ctx c
  | intervene directive => some <$> directive.program ctx

/-- A dealing whose partners never report the code does not end in a failure with it. -/
theorem yields_program (hc : c ∉ ownCodes) (ctx : Context) (d : Dealing) :
    Yields (Exchange.Spares c) (fun r => ∀ o ∈ r, o.Avoids c) (d.program ctx) := by
  have hsome : ∀ {p : Program Outcome}, Yields (Exchange.Spares c) (Avoids c) p →
      Yields (Exchange.Spares c) (fun r => ∀ o ∈ r, o.Avoids c) (some <$> p) := by
    intro p hp
    refine yields_map hp fun outcome houtcome => ?_
    rintro _ ⟨⟩
    exact houtcome
  cases d with
  | run order => exact hsome (Delivery.yields_carryOut hc _ _ _ _)
  | submit order => exact hsome (Delivery.yields_submit hc _ _)
  | receive order => exact hsome (Delivery.yields_carryOut hc _ _ _ _)
  | call s call =>
      exact yields_map (Stream.Sender.yields_answer hc ctx s call) fun _ hreply => hreply
  | intervene directive =>
      cases directive with
      | interrupt action specialId requested requester =>
          exact hsome (Intervention.yields_interrupt hc _ _ _ _ _)
      | restart specialId requested requester time =>
          exact hsome (Intervention.yields_restart hc _ _ _ _ _)

/-- Whatever the answers, the code of a dealing that failed is one of the courier's own, or the
transport reported a failure with it. -/
theorem code_of_failed {ctx : Context} {d : Dealing} {t : Trace} {o : Outcome}
    (h : Run (d.program ctx) t (some o)) (hfailed : o.success = false) :
    o.code ∈ ownCodes ∨ ∃ x ∈ t, x.failureCode? = some o.code := by
  by_contra hforeign
  rw [not_or] at hforeign
  have hspares : ∀ x ∈ t, x.Spares o.code := fun x hx hcode => hforeign.2 ⟨x, hx, hcode⟩
  exact (yields_program hforeign.1 ctx d).value h hspares o rfl hfailed rfl

end Dealing

end Courier
