/-
  Reports about jobs.

  Among the notices those about a published or refused message name the job of the outbox that was
  answered, by its trace id.  `Notice.reported` reads these off a log.  What anyone but the outbox logs is
  silent about jobs (`Notice.Silent`).
-/

import FieldBridge.Notice

namespace FieldBridge.Notice

/-- The trace id of the job that a notice is about. -/
def traceId? : Notice → Option String
  | .published _ _ _ traceId => some traceId
  | .publishFailed traceId _ => some traceId
  | _ => none

/-- The trace ids of the jobs that were answered, in the order of the answers, of a log that lists the
newest notice first. -/
def reported (log : List Notice) : List String := log.reverse.filterMap traceId?

/-- No notice is about a job. -/
def Silent (notices : List Notice) : Prop := ∀ n ∈ notices, n.traceId? = none

theorem reported_append (new old : List Notice) :
    reported (new ++ old) = reported old ++ reported new := by
  rw [reported, List.reverse_append, List.filterMap_append]
  rfl

variable {n : Notice} {notices more : List Notice}

@[simp] theorem silent_nil : Silent [] := fun _ hn => absurd hn List.not_mem_nil

@[simp] theorem silent_cons : Silent (n :: notices) ↔ n.traceId? = none ∧ Silent notices :=
  List.forall_mem_cons

@[simp] theorem silent_append : Silent (notices ++ more) ↔ Silent notices ∧ Silent more :=
  List.forall_mem_append

@[simp] theorem silent_reverse : Silent notices.reverse ↔ Silent notices := by
  simp [Silent]

/-- Silent notices report nothing. -/
theorem Silent.reported (h : Silent notices) : reported notices = [] :=
  List.filterMap_eq_nil_iff.2 fun n hn => h n (List.mem_reverse.1 hn)

/-- Silent notices do not change what a log reports. -/
theorem Silent.reported_append (h : Silent notices) (log : List Notice) :
    Notice.reported (notices ++ log) = Notice.reported log := by
  rw [Notice.reported_append, h.reported, List.append_nil]

end FieldBridge.Notice
