import WindowRelay.Proofs.Desk.Containers
import WindowRelay.Proofs.Session.Occurrences

/-!
Contract: the host of a session shows what its tree says.

Owns:
- the agreement of host and tree in a session, and that whatever comes to the session keeps it;
- the sessions that a fresh one may come to, whether or not somebody still receives the calls.
-/

namespace WindowRelay

theorem Shows.withScale {tree : Tree} {scene : Scene} (shows : Shows tree scene)
    (scale : Binary32) : Shows { tree with dpiScale := scale } scene :=
  shows.withLook ⟨⟨fun _ => rfl, rfl, rfl⟩, fun _ => rfl⟩ (.refl scene)

namespace Session

variable {config : Config} {directory : Option PrefixDirectory} {session next last : Session}
  {task : Task} {tasks : List Task} {reaction : Reaction} {occurrence : Occurrence}
  {calls : List Call}

/-- The windows form a forest, and the host shows them. -/
structure Agrees (session : Session) : Prop where
  forest : session.tree.Forest
  shows : Shows session.tree session.scene

theorem agrees_fresh (config : Config) (directory : Option PrefixDirectory) :
    (fresh config directory).Agrees where
  forest := Tree.forest_empty
  shows := Shows.empty config.display.reserveFrontView

theorem Agrees.dispatch (agrees : session.Agrees)
    (dispatched : session.dispatch task = .ok reaction) : reaction.session.Agrees := by
  refine ⟨forest_of_dispatch agrees.forest dispatched, ?_⟩
  refine (dispatch_preserves_desk
    (motive := fun desk => desk.tree.Forest ∧ Shows desk.tree desk.scene) ?_ ?_ ?_
    ⟨agrees.forest, agrees.shows⟩ dispatched).2
  · rintro event - desk change ⟨forest, shows⟩ accepted
    exact ⟨forest.ofChange accepted, Desk.shows_of_change shows forest accepted⟩
  · rintro desk scene containers ⟨forest, shows⟩
    exact ⟨forest, shows.withLook (.refl desk.tree) containers⟩
  · rintro desk scale ⟨forest, shows⟩
    exact ⟨forest.withScale scale, shows.withScale scale⟩

theorem Agrees.undergo (agrees : session.Agrees)
    (undergone : session.undergo occurrence = .ok (next, calls)) : next.Agrees := by
  cases occurrence with
  | task task =>
      obtain ⟨reaction, dispatched, isNext⟩ := bind_eq_ok.mp undergone
      cases isNext
      exact agrees.dispatch dispatched
  | submission | marker | access =>
      cases undergone
      exact ⟨agrees.forest, agrees.shows⟩

/-- A session that a fresh one may come to. Nobody may be left at some time who receives its
calls. -/
inductive Reachable (config : Config) (directory : Option PrefixDirectory) : Session → Prop where
  | fresh : Reachable config directory (fresh config directory)
  | undergoes {session next : Session} {occurrence : Occurrence} {calls : List Call}
      (earlier : Reachable config directory session)
      (undergone : session.undergo occurrence = .ok (next, calls)) :
      Reachable config directory next
  | unheard {session : Session} (earlier : Reachable config directory session) :
      Reachable config directory { session with callsOpen := false }

theorem Reachable.agrees (reachable : Reachable config directory session) : session.Agrees := by
  induction reachable with
  | fresh => exact agrees_fresh config directory
  | undergoes _ undergone inductionHypothesis => exact inductionHypothesis.undergo undergone
  | unheard _ inductionHypothesis => exact ⟨inductionHypothesis.forest, inductionHypothesis.shows⟩

theorem Reachable.dispatchAll (reachable : Reachable config directory session)
    (ran : session.dispatchAll tasks = .ok last) : Reachable config directory last :=
  dispatchAll_preserves (motive := Reachable config directory)
    (fun _ _ _ earlier dispatched => .undergoes earlier (undergo_of_dispatch dispatched))
    reachable ran

end Session

end WindowRelay
