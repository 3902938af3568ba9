import WindowRelay.Scene.Basic
import WindowRelay.Notice

/-!
Contract: the commands that window events give to the host, and what they do to a scene.

Owns:
- one constructor per command and its effect;
- the rank at which a view is attached among the views that are attached already;
- the two ways in which an order of views is brought in line with a wanted one.

Does not own: which commands an event gives (`Tree.Event`).
-/

namespace WindowRelay

namespace Scene

/-- A command to the host. -/
inductive Command where
  | createViews (id : WindowId)
  | destroyViews (id : WindowId)
  | createContent (id : WindowId) (kind : Surface.Kind)
  | layout (id : WindowId) (kind : Surface.Kind) (rect : Rect)
  | insert (container : Container) (id : WindowId) (index : Nat)
  | remove (container : Container) (id : WindowId)
  | setFocusable (id : WindowId) (focusable : Bool)
  | setShown (id : WindowId) (shown : Bool)
  | setTitle (title : Option ActivityTitle)
  /-- attach the view of a child in front of those of `behind` that are attached -/
  | attach (parent id : WindowId) (behind : List WindowId)
  /-- bring the desktop container in line with the wanted windows -/
  | alignDesktop (wanted : List WindowId)
  /-- bring a client container in line with the wanted children -/
  | alignChildren (parent : WindowId) (wanted : List WindowId)
deriving DecidableEq, Repr

/-- What is left of `wanted` after its windows have been found, in order, among `present`. -/
def unmatched : List WindowId → List WindowId → List WindowId
  | wanted, [] => wanted
  | [], _ :: _ => []
  | window :: rest, view :: views =>
    if view = window then unmatched rest views else unmatched (window :: rest) views

/-- What is left of `wanted` after the common beginning with `present`. -/
def afterCommonStart : List WindowId → List WindowId → List WindowId
  | [], _ => []
  | wanted, [] => wanted
  | window :: rest, view :: views =>
    if window = view then afterCommonStart rest views else window :: rest

/-- Bring windows to the front one after the other. -/
def raiseAll (scene : Scene) (container : Container) (windows : List WindowId) : Scene :=
  windows.foldl (fun scene id => scene.bringToFront container id) scene

/-- Attach a child at its rank among the siblings that are attached already. -/
def attach (scene : Scene) (parent id : WindowId) (behind : List WindowId) : Scene :=
  let attached := scene.children (.client parent)
  scene.insert (.client parent) id (behind.filter (attached.contains ·)).length

/-- The windows that the desktop container shows in another order than wanted, and all wanted
windows in front of them, are brought to the front. -/
def alignDesktop (scene : Scene) (wanted : List WindowId) : Scene :=
  scene.raiseAll .desktop (unmatched wanted scene.desktop)

/-- From the first difference on, the wanted children are brought to the front. -/
def alignChildren (scene : Scene) (parent : WindowId) (wanted : List WindowId) : Scene :=
  scene.raiseAll (.client parent) (afterCommonStart wanted (scene.children (.client parent)))

/-- The effect of one command. -/
def perform (scene : Scene) : Command → Scene
  | .createViews id => scene.createViews id
  | .destroyViews id => scene.destroyViews id
  | .createContent id kind => scene.createContent id kind
  | .layout id kind rect => scene.layout id kind rect
  | .insert container id index => scene.insert container id index
  | .remove container id => scene.remove container id
  | .setFocusable id focusable => scene.setFocusable id focusable
  | .setShown id shown => scene.setShown id shown
  | .setTitle title => scene.setTitle title
  | .attach parent id behind => scene.attach parent id behind
  | .alignDesktop wanted => scene.alignDesktop wanted
  | .alignChildren parent wanted => scene.alignChildren parent wanted

/-- The effect of a list of commands, in order. -/
def performAll (scene : Scene) (commands : List Command) : Scene :=
  commands.foldl perform scene

/-- The log line of one command, written from the scene that it leaves. -/
def report (scene : Scene) : Command → List Notice
  | .attach parent _ _ => [.attached parent (scene.children (.client parent))]
  | .alignChildren parent _ => [.aligned parent (scene.children (.client parent))]
  | _ => []

/-- The log lines of a list of commands. -/
def reportAll : Scene → List Command → List Notice
  | _, [] => []
  | scene, command :: rest =>
    let next := scene.perform command
    next.report command ++ reportAll next rest

@[simp] theorem performAll_nil (scene : Scene) : scene.performAll [] = scene := rfl

@[simp] theorem performAll_cons (scene : Scene) (command : Command) (rest : List Command) :
    scene.performAll (command :: rest) = (scene.perform command).performAll rest := rfl

theorem performAll_append (scene : Scene) (first second : List Command) :
    scene.performAll (first ++ second) = (scene.performAll first).performAll second :=
  List.foldl_append

end Scene

end WindowRelay
