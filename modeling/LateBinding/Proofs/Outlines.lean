import LateBinding.Proofs.Traversal
import LateBinding.Proofs.Twins
import LateBinding.Session.Sending

/-!
# Outlines

The outline of an image is the image without its dispatch tables, and without the choice of
building them early. The outline of a session shows the outlines of its images, and of what
happened everything but the reports that tables were built.

Whatever is not about tables is the same in an outline. Every change of a registry but
publishing a table comes to the same whether the outline is taken before it or afterwards, and
publishing does not change the outline at all.
-/

namespace LateBinding

namespace Registry

variable (registry : Registry)

/-- Stages are no tables. -/
theorem reached_bare (id : ClassId) (goal : Stage) :
    registry.bare.reached id goal = registry.reached id goal := by
  rw [reached, stage, entry_bare]
  rfl

/-- Neither are the categories that wait. -/
theorem parkedFor_bare (name : String) : registry.bare.parkedFor name = registry.parkedFor name :=
  rfl

/-- A walk up goes by names. -/
theorem walk_bare (origin : ClassId) (room : Nat) (passed : List ClassId) (current : ClassId) :
    registry.bare.walk origin room passed current = registry.walk origin room passed current := by
  fun_induction registry.walk origin room passed current with
  | case1 room passed current declared =>
    rw [walk, entry_bare]
    simp only [ClassEntry.bare, declared]
  | case2 room passed current name declared absent =>
    rw [walk, entry_bare, entry_bare]
    simp only [ClassEntry.bare, declared, find?_bare, absent]
  | case3 room passed current name declared next found again =>
    rw [walk, entry_bare]
    simp only [ClassEntry.bare, declared, find?_bare, found, if_pos again]
  | case4 passed current name declared next found new =>
    rw [walk, entry_bare]
    simp only [ClassEntry.bare, declared, find?_bare, found, if_neg new]
  | case5 passed current name declared next found new room inductionHypothesis =>
    rw [Nat.succ_eq_add_one, walk, entry_bare]
    simp only [ClassEntry.bare, declared, find?_bare, found, if_neg new, inductionHypothesis]

/-- So does the chain of a class. -/
theorem chain_bare (id : ClassId) : registry.bare.chain id = registry.chain id := by
  rw [chain, chain, size_bare, walk_bare]

/-- The declared superclass is found by name. -/
theorem declaredSuper?_bare (id : ClassId) :
    registry.bare.declaredSuper? id = registry.declaredSuper? id := by
  rw [declaredSuper?, entry_bare]
  rfl

/-- Sizes are no tables. -/
theorem fullSize_bare (id : ClassId) : registry.bare.fullSize id = registry.fullSize id := by
  simp only [fullSize, declaredSuper?_bare, entry_bare, ClassEntry.bare]

/-- The side above goes by links. -/
theorem superside?_bare (ref : SideRef) :
    registry.bare.superside? ref = registry.superside? ref := by
  simp only [superside?, entry_bare, ClassEntry.bare]

/-- So do all sides above. -/
theorem superclasses_bare (ref : SideRef) :
    registry.bare.superclasses ref = registry.superclasses ref := by
  rw [superclasses, superclasses, size_bare, funext registry.superside?_bare]

/-- And whether one is below another. -/
theorem isSubclass_bare (ref other : SideRef) :
    registry.bare.isSubclass ref other = registry.isSubclass ref other := by
  rw [isSubclass, isSubclass, superclasses_bare]

/-- A label is a name and a side. -/
theorem label_bare (ref : SideRef) : registry.bare.label ref = registry.label ref := by
  rw [label, label, entry_bare]
  rfl

/-- A view without tables is the outline of the view. -/
theorem view_bare (ref : SideRef) : registry.bare.view ref = (registry.view ref).outline := by
  rw [view, view, superside?_bare, label_bare, funext registry.label_bare, table?, entry_bare]
  simp only [ClassEntry.bare, BySide.get_both]
  rfl

/-- Tables can be left out only once. -/
theorem bare_bare : registry.bare.bare = registry.bare := by
  simp only [bare, Array.map_map, mk.injEq, and_self, and_true]
  rfl

/-- The classes below a class go by lists of subclasses. -/
theorem descendants_bare (id : ClassId) : registry.bare.descendants id = registry.descendants id :=
  descendants_of_bare registry.bare_bare id

/-- A change of a class that does nothing to its tables comes to the same without them. -/
theorem bare_modify (id : ClassId) {change : ClassEntry → ClassEntry}
    (inView : ∀ entry : ClassEntry, (change entry).bare = change entry.bare) :
    (registry.modify id change).bare = registry.bare.modify id change := by
  simp only [bare, modify, mk.injEq, and_true]
  apply Array.ext
  · simp
  · intro position inside _
    simp only [Array.getElem_map, Array.getElem_modify]
    split
    · exact inView _
    · rfl

/-- A class that is added has no tables yet. -/
theorem bare_push {new : ClassEntry} (plain : new.bare = new) :
    (registry.push new).bare = registry.bare.push new := by
  simp only [bare, push, Array.map_push, plain, size, Array.size_map]

/-- Listing a class under its superclass does not touch tables. -/
theorem bare_addSubclass (superclass : Option ClassId) (id : ClassId) :
    (registry.addSubclass superclass id).bare = registry.bare.addSubclass superclass id := by
  cases superclass with
  | none => rfl
  | some above => exact registry.bare_modify above fun _ => rfl

/-- A link does not touch tables. -/
theorem bare_tie (id : ClassId) : (registry.tie id).bare = registry.bare.tie id := by
  rw [tie, bare_modify, tie, declaredSuper?_bare]
  exact fun _ => rfl

/-- Linking as a whole does not touch them. -/
theorem bare_link (id : ClassId) : (registry.link id).bare = registry.bare.link id := by
  rw [link, bare_addSubclass, bare_modify, link, declaredSuper?_bare, fullSize_bare]
  exact fun _ => rfl

/-- Neither does attaching what waited. -/
theorem bare_absorb (id : ClassId) : (registry.absorb id).bare = registry.bare.absorb id := by
  let name := (registry.entry id).name
  have attached : (registry.modify id fun entry =>
      { entry.advance .loaded with
        categories := entry.categories ++ registry.parkedFor name }).bare =
      registry.bare.modify id fun entry =>
        { entry.advance .loaded with categories := entry.categories ++ registry.parkedFor name } :=
    registry.bare_modify id fun _ => rfl
  rw [absorb, absorb, entry_bare]
  exact congrArg (fun changed : Registry =>
    { changed with parked := registry.parked.filter (·.className != name) }) attached

/-- Neither does attaching one category. -/
theorem bare_attach (id : ClassId) (category : Category) :
    (registry.attach id category).bare = registry.bare.attach id category :=
  registry.bare_modify id fun _ => rfl

/-- Neither does replacing a method. -/
theorem bare_replaceMethod (ref : SideRef) (selector : Selector) (imp : Imp) :
    (registry.replaceMethod ref selector imp).bare =
      registry.bare.replaceMethod ref selector imp :=
  registry.bare_modify ref.id fun _ => rfl

end Registry

/-- A configuration in which tables are built on first use. -/
def Config.lazy (config : Config) : Config := { config with eager := false }

/-- An image without its tables and the choice of when to build them. -/
def Image.outline [NameHash] (image : Image) : Image :=
  { image with config := image.config.lazy, registry := image.registry.bare }

/-- A report that a table has been built. -/
def Log.Message.ofBuilding (message : Log.Message) : Bool :=
  message.level == .trace && "built ".toList.isPrefixOf message.text.toList

/-- The event of reporting that a table has been built. -/
def Event.ofBuilding : Event → Bool
  | .logged message => message.ofBuilding
  | _ => false

/-- A draft without tables and the reports that they were built. -/
def Draft.outline [NameHash] (draft : Draft) : Draft :=
  { draft with
    image := draft.image.outline
    reports := draft.reports.filter fun message => !message.ofBuilding }

/-- A class of a dump without its tables. -/
def ClassDump.outline (dump : ClassDump) : ClassDump :=
  { dump with inst := dump.inst.outline, metaclass := dump.metaclass.outline }

/-- A dump without tables. -/
def ImageDump.outline (dump : ImageDump) : ImageDump :=
  { dump with classes := dump.classes.map ClassDump.outline }

/-- An answer without the tables of the classes it shows. -/
def Answer.outline : Answer → Answer
  | .classView view => .classView view.outline
  | .classViews views => .classViews (views.map ClassView.outline)
  | .dump shown => .dump shown.outline
  | answer => answer

/-- The dump of an outline is the outline of the dump. -/
theorem Image.dump_outline [NameHash] (image : Image) :
    image.outline.dump = image.dump.outline := by
  simp only [dump, outline, ImageDump.outline, List.map_map, Registry.size_bare,
    Registry.view_bare, Registry.entry_bare, Registry.parkedFor_bare]
  rfl

/-- The outline of a view is its own outline. -/
theorem ClassView.outline_outline (view : ClassView) : view.outline.outline = view.outline := rfl

/-- So it is with a dump. -/
theorem ImageDump.outline_outline (dump : ImageDump) : dump.outline.outline = dump.outline := by
  simp only [outline, List.map_map]
  rfl

/-- And with an image. -/
theorem Image.outline_outline [NameHash] (image : Image) :
    image.outline.outline = image.outline := by
  simp only [outline, Registry.bare_bare]
  rfl

/-- The image that is given for an unknown number has no tables. -/
theorem Image.outline_default [NameHash] : (default : Image).outline = default := by
  have plain : (default : Image).registry.bare = (default : Image).registry :=
    congrArg (fun classes => { (default : Image).registry with classes }) Array.map_empty
  rw [outline, plain]
  rfl

namespace Session

variable [NameHash]

/-- A session without the tables of its images and the reports that they were built. -/
def outline (session : Session) : Session :=
  { session with
    images := session.images.map Image.outline
    events := session.events.filter fun event => !event.ofBuilding }

variable (session : Session)

/-- The outline of a session is its own outline. -/
theorem outline_outline : session.outline.outline = session.outline := by
  have images : Image.outline ∘ Image.outline = Image.outline := funext Image.outline_outline
  simp only [outline, Array.map_map, images, Array.filter_filter, Bool.and_self]

/-- Its images are the outlines of the images. -/
@[simp] theorem image_outline (id : ImageId) :
    session.outline.image id = (session.image id).outline := by
  simp only [image, outline, Array.getD_eq_getD_getElem?, Array.getElem?_map]
  cases session.images[id]? with
  | none => exact Image.outline_default.symm
  | some found => rfl

/-- Its registries are those of the session without tables. -/
@[simp] theorem registryOf_outline (handle : ClassHandle) :
    session.outline.registryOf handle = (session.registryOf handle).bare := by
  rw [registryOf, image_outline]
  rfl

/-- Labels are in the outline. -/
theorem label_outline (handle : ClassHandle) :
    session.outline.label handle = session.label handle := by
  rw [label, registryOf_outline, Registry.label_bare]
  rfl

/-- Views in it are the outlines of views. -/
theorem view_outline (handle : ClassHandle) :
    session.outline.view handle = (session.view handle).outline := by
  rw [view, registryOf_outline, Registry.view_bare]
  rfl

/-- Putting an image in place of another one can be seen in outline. -/
theorem outline_setImage (id : ImageId) (new : Image) :
    (session.setImage id new).outline = session.outline.setImage id new.outline := by
  simp only [outline, setImage, Array.map_setIfInBounds]

omit [NameHash] in
/-- Reports of building are left out before they are events or after. -/
theorem admitted_filter (threshold : Log.Level) (reports : List Log.Message) :
    (admitted threshold reports).filter (fun event => !event.ofBuilding) =
      admitted threshold (reports.filter fun message => !message.ofBuilding) := by
  simp only [admitted, List.filter_map, List.filter_filter]
  refine congrArg _ (List.filter_congr fun message _ => ?_)
  exact Bool.and_comm _ _

/-- In outline only the other reports are logged. -/
theorem outline_log (reports : List Log.Message) :
    (session.log reports).outline =
      session.outline.log (reports.filter fun message => !message.ofBuilding) := by
  have events : (session.events ++ admitted session.threshold reports).filter
        (fun event => !event.ofBuilding) =
      session.events.filter (fun event => !event.ofBuilding) ++
        admitted session.threshold (reports.filter fun message => !message.ofBuilding) := by
    apply Array.ext'
    simp only [Array.toList_filter, Array.toList_appendList, List.filter_append, admitted_filter]
  simp only [outline, log, events]

/-- A draft is adopted in outline. -/
theorem outline_adopt (id : ImageId) (draft : Draft) :
    (session.adopt id draft).outline = session.outline.adopt id draft.outline := by
  rw [adopt, outline_log, outline_setImage]
  rfl

end Session

end LateBinding
