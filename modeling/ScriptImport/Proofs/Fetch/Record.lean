/-
# Fetching does not read its record

A web records the requests that were sent and the events that were logged.  Fetching adds to the record but does
not look at it: behind what `old` records it brings the same, leaves the same files and requests under way, and
adds the same (`Fetcher.unread_fetch`).
-/

import ScriptImport.Proofs.Fetch.Call

namespace ScriptImport

namespace Web

variable {α β : Type}

/-- The web `w` when what `old` records has been recorded before. -/
def behind (old w : Web) : Web :=
  { w with requests := old.requests ++ w.requests, events := old.events ++ w.events }

/-- What adds to the record without reading it. -/
def Unread (x : StateM Web α) : Prop := ∀ old w : Web, x (old.behind w) = ((x w).1, old.behind (x w).2)

theorem unread_pure (a : α) : Unread (pure a) := fun _ _ => rfl

theorem Unread.bind {x : StateM Web α} {f : α → StateM Web β} (hx : Unread x) (hf : ∀ a, Unread (f a)) :
    Unread (x >>= f) := by
  intro old w
  rw [bind_apply, bind_apply, hx old w]
  exact hf _ old _

/-- What depends on the web, but not on its record. -/
theorem unread_bind_get {f : Web → StateM Web α} (hsame : ∀ old w : Web, f (old.behind w) = f w)
    (hf : ∀ w, Unread (f w)) : Unread (get >>= f) := by
  intro old w
  rw [bind_apply, bind_apply, get_apply, get_apply, hsame old w]
  exact hf w old w

theorem unread_logAll (es : List Event) : Unread (logAll es) := fun old w => by
  simp [behind]

theorem unread_log (e : Event) : Unread (log e) := unread_logAll [e]

theorem unread_forM {as : List α} {f : α → StateM Web PUnit} (hf : ∀ a, Unread (f a)) : Unread (as.forM f) := by
  induction as with
  | nil => exact unread_pure _
  | cons a as ih => exact (hf a).bind fun _ => ih

end Web

namespace Fetcher

open Web

variable (x : Fetcher) (url : Url)

theorem unread_lookup : Unread (x.lookup url) := by
  refine unread_bind_get (fun old w => ?_) fun w => ?_
  · dsimp only [behind]
  · exact (unread_logAll _).bind fun _ => unread_pure _

theorem unread_receive (r : Response) : Unread (x.receive url r) := by
  unfold receive
  by_cases hs : r.isSuccess
  · simp only [if_pos hs]
    intro old w
    cases hstore : x.cache.store w.files url.text r.body r.headers w.now with
    | mk stored files =>
      simp only [bind_apply, get_apply, behind, hstore]
      cases stored <;> simp [Web.log]
  · by_cases hu : r.isUnchanged
    · simp only [if_neg hs, if_pos hu]
      intro old w
      cases htouch : x.cache.touch w.files url.text r.headers w.now with
      | mk touched rest =>
        simp only [bind_apply, get_apply, behind, htouch]
        cases touched <;> simp [Web.log]
    · simp only [if_neg hs, if_neg hu]
      exact unread_pure _

theorem unread_revalidate : Unread (x.revalidate url) := by
  have hsent (request : Request) :
      Unread (modify fun w : Web => { w with requests := w.requests ++ [request] }) := fun old w => by
    simp [behind]
  refine unread_bind_get (fun old w => ?_) fun w => ?_
  · dsimp only [behind]
  · refine (unread_logAll _).bind fun _ => (hsent _).bind fun _ => ?_
    split
    · exact unread_pure _
    · exact x.unread_receive url _

theorem unread_refresh : Unread (x.refresh url) := by
  refine (x.unread_revalidate url).bind fun result => ?_
  cases result with
  | ok fetched => exact unread_pure _
  | error e => exact (unread_log _).bind fun _ => unread_pure _

theorem unread_settle : Unread x.settle := by
  refine unread_bind_get (fun _ _ => rfl) fun w => ?_
  have hsettled : Unread (modify fun w : Web => { w with pending := [] }) := fun old w => rfl
  exact hsettled.bind fun _ => unread_forM fun url => (x.unread_refresh url).bind fun _ => unread_pure _

theorem unread_obtain : Unread (x.obtain url) := by
  unfold obtain
  split
  · split
    · exact unread_pure _
    · refine x.unread_settle.bind fun _ => unread_bind_get (fun _ _ => rfl) fun w => ?_
      split <;> exact unread_pure _
  · split
    · refine (x.unread_lookup url).bind fun found => ?_
      cases found with
      | ok cached =>
        have hpending : Unread (modify fun w : Web => { w with pending := w.pending ++ [url] }) := fun old w => rfl
        exact hpending.bind fun _ => unread_pure _
      | error e => exact x.unread_settle.bind fun _ => x.unread_refresh url
    · exact unread_pure _

/-- **Fetching does not read the record.** -/
theorem unread_fetch : Unread (x.fetch url) := by
  refine (x.unread_obtain url).bind fun result => ?_
  cases result with
  | ok r => exact (unread_log _).bind fun _ => unread_pure _
  | error e => exact unread_pure _

end Fetcher
end ScriptImport
