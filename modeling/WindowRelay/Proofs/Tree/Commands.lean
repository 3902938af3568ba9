import WindowRelay.Proofs.Scene.Views
import WindowRelay.Tree.Event

/-!
Contract: the commands that follow from links and from the order.

Owns:
- attaching, detaching and aligning touch no view apart from its window list;
- the commands for the focus of a window touch the view of that window alone.
-/

namespace WindowRelay

namespace Tree

open Scene

variable (tree : Tree) (id : WindowId)

@[simp] theorem altered_attachCommands : altered (tree.attachCommands id) = [] := by
  unfold attachCommands
  repeat' split
  all_goals rfl

@[simp] theorem altered_detachCommands : altered (tree.detachCommands id) = [] := by
  unfold detachCommands
  split <;> rfl

@[simp] theorem altered_reattachCommands : altered (tree.reattachCommands id) = [] := by
  rw [reattachCommands, altered, List.filterMap_flatMap]
  exact List.flatMap_eq_nil_iff.mpr fun child _ => altered_attachCommands tree child

@[simp] theorem altered_alignChildrenCommands : altered (tree.alignChildrenCommands id) = [] := by
  unfold alignChildrenCommands
  split <;> rfl

@[simp] theorem altered_announceCommands : altered tree.announceCommands = [] := by
  unfold announceCommands
  split <;> rfl

@[simp] theorem altered_childViewCommands (parent : WindowId) (before after reorders : Bool) :
    altered (tree.childViewCommands parent id before after reorders) = [] := by
  unfold childViewCommands
  repeat' split
  · exact altered_attachCommands tree id
  · exact altered_detachCommands tree id
  · exact altered_alignChildrenCommands tree parent
  · rfl

theorem altered_focusCommands (before after : Bool) :
    ∀ window ∈ altered (focusCommands id before after), window = id := by
  unfold focusCommands
  split <;> simp [Command.alters?]

end Tree

end WindowRelay
