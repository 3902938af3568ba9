import WindowRelay.Clipboard.Clip
import WindowRelay.Input.Source
import WindowRelay.Scene.View
import WindowRelay.Window.Node
import WindowRelay.Window.Table

/-!
Contract: the view hierarchy of the host, held in memory.

Owns:
- the views of the windows and the desktop container;
- activity title, cursor, clipboard, devices and the closing of the activity;
- the elementary operations on each of them.

Does not own: the commands that a window event gives (`Scene.Command`).
-/

namespace WindowRelay

/-- A host container to which views are attached. -/
inductive Container where
  /-- the container of the top-level windows -/
  | desktop
  /-- the client container of a window -/
  | client (parent : WindowId)
deriving DecidableEq, Repr

/-- The host as this library drives it. Containers are listed back to front. -/
structure Scene where
  views : Table View := ∅
  desktop : List WindowId := []
  desktopSize : Int32 × Int32 := (0, 0)
  /-- every fresh client container gets a reserved content object in front -/
  reserveFront : Bool := true
  title : Option ActivityTitle := none
  /-- how often a title was set -/
  titleUpdates : Nat := 0
  cursor : Option Cursor := none
  clip : Option Clip := none
  devices : List InputDevice := []
  finished : Bool := false
deriving DecidableEq

namespace Scene

def hasViews (scene : Scene) (id : WindowId) : Bool :=
  scene.views.contains id

def view? (scene : Scene) (id : WindowId) : Option View :=
  scene.views.get? id

/-- The stacking list of a client container, reserved entries included. -/
def stack (scene : Scene) (parent : WindowId) : List StackEntry :=
  ((scene.view? parent).map View.stack).getD []

/-- The windows of a container, back to front. -/
def children (scene : Scene) : Container → List WindowId
  | .desktop => scene.desktop
  | .client parent => ((scene.view? parent).map View.windows).getD []

def updateView (scene : Scene) (id : WindowId) (change : View → View) : Scene :=
  { scene with views := scene.views.modify id change }

/-- Existing views are left alone. -/
def createViews (scene : Scene) (id : WindowId) : Scene :=
  if scene.hasViews id then scene
  else { scene with views := scene.views.insert id (View.fresh scene.reserveFront) }

/-- Drop the views of a window and detach it from every container. -/
def destroyViews (scene : Scene) (id : WindowId) : Scene :=
  { scene with
    views := (scene.views.erase id).mapWithKey fun _ view => view.remove id
    desktop := scene.desktop.filter (· != id) }

def createContent (scene : Scene) (id : WindowId) (kind : Surface.Kind) : Scene :=
  scene.updateView id fun view => view.addContent kind

def layout (scene : Scene) (id : WindowId) (kind : Surface.Kind) (rect : Rect) : Scene :=
  scene.updateView id fun view => view.setLayout kind rect

/-- Put a window into a container, at an index among the other windows or at the front. -/
def insert (scene : Scene) (container : Container) (id : WindowId) (index : Nat) : Scene :=
  match container with
  | .desktop =>
    let rest := scene.desktop.filter (· != id)
    { scene with desktop := rest.insertIdx (min index rest.length) id }
  | .client parent => scene.updateView parent fun view => view.insert id index

def remove (scene : Scene) (container : Container) (id : WindowId) : Scene :=
  match container with
  | .desktop => { scene with desktop := scene.desktop.filter (· != id) }
  | .client parent => scene.updateView parent fun view => view.remove id

def bringToFront (scene : Scene) (container : Container) (id : WindowId) : Scene :=
  match container with
  | .desktop => { scene with desktop := scene.desktop.filter (· != id) ++ [id] }
  | .client parent => scene.updateView parent fun view => view.raise id

def setFocusable (scene : Scene) (id : WindowId) (focusable : Bool) : Scene :=
  scene.updateView id fun view => { view with focusable }

def setShown (scene : Scene) (id : WindowId) (shown : Bool) : Scene :=
  scene.updateView id fun view => { view with shown }

def setTitle (scene : Scene) (title : Option ActivityTitle) : Scene :=
  { scene with title, titleUpdates := scene.titleUpdates + 1 }

/-- A device that is reported again replaces its former record and comes last. -/
def addDevice (scene : Scene) (device : InputDevice) : Scene :=
  { scene with devices := scene.devices.filter (·.id != device.id) ++ [device] }

end Scene

end WindowRelay
