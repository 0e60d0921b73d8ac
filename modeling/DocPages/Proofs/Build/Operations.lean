import DocPages.Build.Operations
import DocPages.Proofs.Build.Yield
import DocPages.Proofs.Traversal

namespace DocPages

variable [PropertyFamily]

namespace Build

variable {body : Build Unit} (tools : Toolkit) (scope : Scope)

theorem yield_resolve_bind {α : Type} (params : Params) (kind : Kind) (f : Attrs → Build α) :
    (resolve params kind >>= f).yield tools scope =
      (f (params.resolve scope kind)).yield tools scope := rfl

theorem nodes_resolve_bind (params : Params) (kind : Kind) (f : Attrs → Build Unit) :
    (resolve params kind >>= f).nodes tools scope =
      (f (params.resolve scope kind)).nodes tools scope := rfl

theorem nodes_read_bind (f : Toolkit → Build Unit) :
    (read >>= f).nodes tools scope = (f tools).nodes tools scope := rfl

theorem runFrom_read_bind {α : Type} (f : Toolkit → Build α) (draft : Draft)
    (log : List Observation) :
    (read >>= f).runFrom tools draft log = (f tools).runFrom tools draft log := rfl

theorem nodes_bind_push {α : Type} {build : Build α} (h : AppendOnly build) (node : α → Node) :
    (build >>= fun a => push (node a)).nodes tools scope =
      (fun (a, added) => added ++ [node a]) <$> build.yield tools scope := by
  rw [nodes_bind h fun _ => appendOnly_push _]
  simp only [nodes_push, map_pure, bind_pure_comp]

theorem appendOnly_text (s : String) (params : Params) : AppendOnly (text s params) :=
  (appendOnly_resolve params .main).bind fun _ => appendOnly_push _

theorem nodes_text (s : String) (params : Params) :
    (text s params).nodes tools scope = pure [.text s (params.resolve scope .main)] := rfl

theorem appendOnly_link (s : String) (address : Dri) (params : Params) :
    AppendOnly (link s address params) :=
  (appendOnly_resolve params .main).bind fun _ => appendOnly_push _

theorem nodes_link (s : String) (address : Dri) (params : Params) :
    (link s address params).nodes tools scope =
      pure [.driLink [.text s (params.resolve scope .main)] address
        (params.resolve scope .main)] := rfl

theorem appendOnly_resolvedLink (s : String) (address : String) (params : Params) :
    AppendOnly (resolvedLink s address params) :=
  (appendOnly_resolve params .main).bind fun _ => appendOnly_push _

theorem nodes_resolvedLink (s : String) (address : String) (params : Params) :
    (resolvedLink s address params).nodes tools scope =
      pure [.resolvedLink [.text s (params.resolve scope .main)] address
        (params.resolve scope .main)] := rfl

theorem appendOnly_comment (tag : DocTag) (params : Params) : AppendOnly (comment tag params) :=
  (appendOnly_resolve params .comment).bind fun _ =>
    appendOnly_read.bind fun _ => appendOnly_push _

theorem nodes_comment (tag : DocTag) (params : Params) :
    (comment tag params).nodes tools scope =
      let attrs := params.resolve scope .comment
      pure [.group ⟨tools.comment tag attrs.identity attrs.platforms, attrs⟩] := rfl

theorem appendOnly_signature (documentable : Documentable) : AppendOnly (signature documentable) :=
  appendOnly_read.bind fun _ => appendOnly_pure _

section nested

theorem appendOnly_nested (params : Params) (kind : Kind) (h : AppendOnly body) :
    AppendOnly (nested params kind body) :=
  (appendOnly_resolve params kind).bind fun _ => appendOnly_lift (settled_inScope h _)

theorem yield_nested (params : Params) (kind : Kind) (h : AppendOnly body) :
    (nested params kind body).yield tools scope =
      (fun children => (⟨children, params.resolve scope kind⟩, [])) <$>
        body.nodes tools (params.resolve scope kind).toScope := by
  rw [nested, yield_resolve_bind, yield_lift (settled_inScope h _), value_inScope h,
    Functor.map_map]

theorem appendOnly_buildGroup (params : Params) (h : AppendOnly body) :
    AppendOnly (buildGroup params body) :=
  appendOnly_nested params .main h

theorem yield_buildGroup (params : Params) (h : AppendOnly body) :
    (buildGroup params body).yield tools scope =
      (fun children => (⟨children, params.resolve scope .main⟩, [])) <$>
        body.nodes tools (params.resolve scope .main).toScope :=
  yield_nested tools scope params .main h

theorem nodes_nested_push (params : Params) (h : AppendOnly body) (node : Group → Node) :
    (nested params .main body >>= fun g => push (node g)).nodes tools scope =
      (fun children => [node ⟨children, params.resolve scope .main⟩]) <$>
        body.nodes tools (params.resolve scope .main).toScope := by
  rw [nodes_bind_push tools scope (appendOnly_nested params .main h),
    yield_nested tools scope params .main h, Functor.map_map]
  rfl

theorem appendOnly_header (level : UInt8) (params : Params) (h : AppendOnly body) :
    AppendOnly (header level params body) :=
  (appendOnly_nested params .main h).bind fun _ => appendOnly_push _

theorem nodes_header (level : UInt8) (params : Params) (h : AppendOnly body) :
    (header level params body).nodes tools scope =
      (fun children => [.header level ⟨children, params.resolve scope .main⟩]) <$>
        body.nodes tools (params.resolve scope .main).toScope :=
  nodes_nested_push tools scope params h (Node.header level)

theorem appendOnly_group (params : Params) (h : AppendOnly body) :
    AppendOnly (group params body) :=
  (appendOnly_buildGroup params h).bind fun _ => appendOnly_push _

theorem nodes_group (params : Params) (h : AppendOnly body) :
    (group params body).nodes tools scope =
      (fun children => [.group ⟨children, params.resolve scope .main⟩]) <$>
        body.nodes tools (params.resolve scope .main).toScope :=
  nodes_nested_push tools scope params h Node.group

theorem appendOnly_hint (params : Params) (h : AppendOnly body) :
    AppendOnly (hint params body) :=
  (appendOnly_buildGroup params h).bind fun _ => appendOnly_push _

theorem nodes_hint (params : Params) (h : AppendOnly body) :
    (hint params body).nodes tools scope =
      (fun children => [.platformHinted (.group ⟨children, params.resolve scope .main⟩)
        (params.resolve scope .main).platforms]) <$>
        body.nodes tools (params.resolve scope .main).toScope :=
  nodes_nested_push tools scope params h fun g => .platformHinted (.group g) g.attrs.platforms

theorem appendOnly_linkContent (address : Dri) (params : Params) (h : AppendOnly body) :
    AppendOnly (linkContent address params body) :=
  (appendOnly_resolve params .main).bind fun _ =>
    (appendOnly_nested params .main h).bind fun _ => appendOnly_push _

theorem nodes_linkContent (address : Dri) (params : Params) (h : AppendOnly body) :
    (linkContent address params body).nodes tools scope =
      (fun children => [.driLink children address (params.resolve scope .main)]) <$>
        body.nodes tools (params.resolve scope .main).toScope :=
  nodes_nested_push tools scope params h fun g =>
    .driLink g.children address (params.resolve scope .main)

end nested

section tables

variable {α : Type} (attrs : α → Attrs) {rowBody : α → Build Unit} {l : List α}

/-- The groups that the bodies of some rows make, each in the scope of its own attributes. -/
def rowGroups (rowBody : α → Build Unit) (l : List α) : Except MissingDivergent (List Group) :=
  l.mapM fun a => (⟨·, attrs a⟩) <$> (rowBody a).nodes tools (attrs a).toScope

theorem appendOnly_rows (h : ∀ a ∈ l, AppendOnly (rowBody a)) :
    AppendOnly (l.mapM fun a => (Run.inScope (attrs a) (rowBody a) : Build Group)) :=
  appendOnly_mapM fun a ha => appendOnly_lift (settled_inScope (h a ha) (attrs a))

theorem yield_rows (h : ∀ a ∈ l, AppendOnly (rowBody a)) :
    Build.yield (l.mapM fun a => Run.inScope (attrs a) (rowBody a)) tools scope =
      (·, []) <$> rowGroups tools attrs rowBody l := by
  apply yield_mapM fun a ha => appendOnly_lift (settled_inScope (h a ha) (attrs a))
  intro a ha tools scope
  rw [yield_lift (settled_inScope (h a ha) _), value_inScope (h a ha)]

theorem nodes_rows_push (h : ∀ a ∈ l, AppendOnly (rowBody a)) (node : List Group → Node) :
    Build.nodes (do
      let rows ← l.mapM fun a => Run.inScope (attrs a) (rowBody a)
      push (node rows)) tools scope =
      (fun rows => [node rows]) <$> rowGroups tools attrs rowBody l := by
  rw [nodes_bind_push tools scope (appendOnly_rows attrs h), yield_rows tools scope attrs h,
    Functor.map_map]
  rfl

theorem appendOnly_buildGroups (params : α → Params) (h : ∀ a ∈ l, AppendOnly (rowBody a)) :
    AppendOnly (l.mapM fun a => buildGroup (params a) (rowBody a)) :=
  appendOnly_mapM fun a ha => appendOnly_buildGroup (params a) (h a ha)

theorem yield_buildGroups (params : α → Params) (h : ∀ a ∈ l, AppendOnly (rowBody a)) :
    Build.yield (l.mapM fun a => buildGroup (params a) (rowBody a)) tools scope =
      (·, []) <$> rowGroups tools (fun a => (params a).resolve scope .main) rowBody l := by
  refine yield_mapM (g := fun a tools scope => (⟨·, (params a).resolve scope .main⟩) <$>
    (rowBody a).nodes tools ((params a).resolve scope .main).toScope)
    (fun a ha => appendOnly_buildGroup (params a) (h a ha)) ?_ tools scope
  intro a ha tools scope
  rw [yield_buildGroup tools scope (params a) (h a ha), Functor.map_map]

/-- The attributes of the row that stands for an entity in a table. -/
def rowAttrs (table : Attrs) (dri : Dri) (platforms : PlatformSet) : Attrs :=
  { table with dris := Keyed.singleton dri, platforms }

theorem appendOnly_linkTable (dris : List Dri) (params : Params) :
    AppendOnly (linkTable dris params) :=
  (appendOnly_resolve params .main).bind fun _ =>
    (appendOnly_rows _ fun _ _ => appendOnly_link _ _ _).bind fun _ => appendOnly_push _

/-- The row of a table of links that stands for an entity. -/
def linkRow (table : Attrs) (dri : Dri) : Group :=
  let own := rowAttrs table dri table.platforms
  let inner : Attrs := { toScope := own.toScope, kind := .main }
  ⟨[.driLink [.text (dri.classNames.getD "") inner] dri inner], own⟩

theorem nodes_linkTable (dris : List Dri) (params : Params) :
    (linkTable dris params).nodes tools scope =
      pure [.table [] (dris.map (linkRow (params.resolve scope .main)))
        (params.resolve scope .main)] := by
  rw [linkTable, nodes_resolve_bind,
    nodes_rows_push tools scope _ fun _ _ => appendOnly_link _ _ _]
  simp only [rowGroups, nodes_link, map_pure, List.mapM_pure]
  rfl

theorem appendOnly_table (params : Params) {operation : Build (List Group)}
    (h : AppendOnly operation) : AppendOnly (table params operation) :=
  (appendOnly_resolve params .main).bind fun _ => h.bind fun _ => appendOnly_push _

theorem nodes_table (params : Params) {operation : Build (List Group)}
    (h : AppendOnly operation) :
    (table params operation).nodes tools scope =
      (fun (rows, before) => before ++ [.table [] rows (params.resolve scope .main)]) <$>
        operation.yield tools scope := by
  rw [table, nodes_resolve_bind, nodes_bind_push tools scope h]

/-- The attributes of the row that an element of a block gets. -/
def elementAttrs {β : Type} (table : Attrs) (element : Documentable × β) : Attrs :=
  rowAttrs table element.1.dri element.1.platforms

variable {elements : List (Documentable × Build Unit)}

theorem appendOnly_block (name : String) (level : UInt8) (params : Params)
    (renderWhenEmpty : Bool) (h : ∀ element ∈ elements, AppendOnly element.2) :
    AppendOnly (block name level params renderWhenEmpty elements) := by
  unfold block
  split
  · exact appendOnly_pure ()
  · apply (appendOnly_header level {} (appendOnly_text name {})).bind
    intro _
    apply (appendOnly_resolve params .main).bind
    intro attrs
    exact (appendOnly_rows (elementAttrs attrs) h).bind fun _ => appendOnly_push _

theorem nodes_block (name : String) (level : UInt8) (params : Params) (renderWhenEmpty : Bool)
    (h : ∀ element ∈ elements, AppendOnly element.2) :
    (block name level params renderWhenEmpty elements).nodes tools scope =
      if elements.isEmpty && !renderWhenEmpty then pure []
      else
        (fun rows =>
          [.header level ⟨[.text name { toScope := scope }], { toScope := scope }⟩,
            .table [] rows (params.resolve scope .main)]) <$>
          rowGroups tools (elementAttrs (params.resolve scope .main)) Prod.snd elements := by
  unfold block
  split
  · rfl
  · have htable (attrs : Attrs) := (appendOnly_rows (elementAttrs attrs) h).bind fun rows =>
      appendOnly_push (.table [] rows attrs)
    have hrows := nodes_rows_push tools scope (elementAttrs (params.resolve scope .main)) h
      fun rows => .table [] rows (params.resolve scope .main)
    refine (nodes_seq (appendOnly_header level {} (appendOnly_text name {}))
      ((appendOnly_resolve params .main).bind htable) tools scope).trans ?_
    rw [nodes_header tools scope level {} (appendOnly_text name {}), nodes_text,
      nodes_resolve_bind, hrows, map_pure, pure_bind, bind_map_left]
    exact bind_pure_comp _ _

end tables

section lists

variable {α : Type} {operation : α → Build Unit} {elements : List α}

theorem appendOnly_forM (h : ∀ a ∈ elements, AppendOnly (operation a)) :
    AppendOnly (elements.forM operation) := by
  induction elements with
  | nil => exact appendOnly_pure ()
  | cons a rest ih =>
      rw [List.forall_mem_cons] at h
      exact h.1.bind fun _ => ih h.2

theorem nodes_forM (h : ∀ a ∈ elements, AppendOnly (operation a)) :
    (elements.forM operation).nodes tools scope =
      List.flatten <$> elements.mapM fun a => (operation a).nodes tools scope := by
  induction elements with
  | nil => rfl
  | cons a rest ih =>
      rw [List.forall_mem_cons] at h
      have hseq := nodes_seq h.1 (appendOnly_forM h.2) tools scope
      refine Eq.trans hseq ?_
      simp only [ih h.2, List.mapM_cons, map_bind, map_pure, bind_map_left, List.flatten_cons]

/-- The leaf that frames a list, if there is any text for it. -/
def frame (s : String) (attrs : Attrs) : List Node := if s.isEmpty then [] else [.text s attrs]

theorem appendOnly_framingText (s : String) (params : Params) :
    AppendOnly (framingText s params) := by
  unfold framingText
  split
  · exact appendOnly_pure ()
  · exact appendOnly_text s params

theorem nodes_framingText (s : String) (params : Params) :
    (framingText s params).nodes tools scope = pure (frame s (params.resolve scope .main)) := by
  unfold framingText frame
  split <;> rfl

/-- What the elements of a list make, with its framing and separators. -/
def framed (framing : Framing) (attrs : Attrs) : List (List Node) → List Node
  | [] => []
  | first :: rest =>
      frame framing.opening attrs ++ (first ++
        (rest.flatMap (.text framing.separator attrs :: ·) ++ frame framing.closing attrs))

theorem appendOnly_list (framing : Framing) (params : Params)
    (h : ∀ a ∈ elements, AppendOnly (operation a)) :
    AppendOnly (list elements framing params operation) := by
  cases elements with
  | nil => exact appendOnly_pure ()
  | cons first rest =>
      rw [List.forall_mem_cons] at h
      apply (appendOnly_framingText framing.opening params).bind
      intro _
      apply h.1.bind
      intro _
      apply (appendOnly_forM fun a ha => (appendOnly_text _ _).bind fun _ => h.2 a ha).bind
      intro _
      exact appendOnly_framingText framing.closing params

theorem nodes_list (framing : Framing) (params : Params)
    (h : ∀ a ∈ elements, AppendOnly (operation a)) :
    (list elements framing params operation).nodes tools scope =
      framed framing (params.resolve scope .main) <$>
        elements.mapM fun a => (operation a).nodes tools scope := by
  cases elements with
  | nil => rfl
  | cons first rest =>
      rw [List.forall_mem_cons] at h
      let separated (a : α) : Build Unit := do
        text framing.separator params
        operation a
      have hseparated : ∀ a ∈ rest, AppendOnly (separated a) :=
        fun a ha => (appendOnly_text _ _).bind fun _ => h.2 a ha
      have hnodes : ∀ a ∈ rest, (separated a).nodes tools scope =
          (.text framing.separator (params.resolve scope .main) :: ·) <$>
            (operation a).nodes tools scope := by
        intro a ha
        rw [nodes_seq (appendOnly_text _ _) (h.2 a ha), nodes_text, pure_bind]
        exact bind_pure_comp _ _
      have hclosing := appendOnly_framingText framing.closing params
      have htail := (appendOnly_forM hseparated).bind fun _ => hclosing
      unfold list
      rw [nodes_seq (appendOnly_framingText _ _) (h.1.bind fun _ => htail), nodes_seq h.1 htail,
        nodes_seq (appendOnly_forM hseparated) hclosing, nodes_forM tools scope hseparated,
        nodes_framingText, nodes_framingText, mapM_congr hnodes, mapM_map_result]
      simp only [pure_bind, bind_map_left, bind_assoc, List.mapM_cons, map_bind, map_pure]
      rfl

theorem appendOnly_listDefault (h : ∀ a ∈ elements, AppendOnly (operation a)) :
    AppendOnly (listDefault elements operation) :=
  appendOnly_read.bind fun _ => appendOnly_list _ _ h

theorem nodes_listDefault (h : ∀ a ∈ elements, AppendOnly (operation a)) :
    (listDefault elements operation).nodes tools scope =
      framed { separator := tools.listSeparator } { toScope := scope } <$>
        elements.mapM fun a => (operation a).nodes tools scope := by
  rw [listDefault, nodes_read_bind, nodes_list tools scope _ _ h, Params.resolve_empty]

section platformText

variable {β : Type} (values : PlatformDependent β) (platforms : PlatformSet)
  (transform : β → String)

/-- Whether a value is shown among those of some platforms. -/
def isShown (entry : PlatformData × β) : Bool :=
  entry.1 ∈ platforms && !Text.isBlank (transform entry.2)

def entryText (entry : PlatformData × β) : Build Unit :=
  if isShown platforms transform entry then text (transform entry.2) (.ofPlatform entry.1)
  else pure ()

theorem appendOnly_entryText (entry : PlatformData × β) :
    AppendOnly (entryText platforms transform entry) := by
  unfold entryText
  split
  · exact appendOnly_text _ _
  · exact appendOnly_pure ()

theorem appendOnly_platformText : AppendOnly (platformText values platforms transform) :=
  appendOnly_forM fun entry _ => appendOnly_entryText platforms transform entry

theorem nodes_platformText :
    (platformText values platforms transform).nodes tools scope =
      pure ((values.toList.filter (isShown platforms transform)).map fun (platform, value) =>
        .text (transform value) ((Params.ofPlatform platform).resolve scope .main)) := by
  have hentries : (values.toList.forM (entryText platforms transform)).nodes tools scope = _ :=
    nodes_forM tools scope fun entry _ => appendOnly_entryText platforms transform entry
  have hentry (entry : PlatformData × β) :
      (entryText platforms transform entry).nodes tools scope =
        pure (if isShown platforms transform entry then
          [.text (transform entry.2) ((Params.ofPlatform entry.1).resolve scope .main)]
        else []) := by
    unfold entryText
    split <;> rfl
  refine Eq.trans hentries ?_
  simp only [hentry, List.mapM_pure, map_pure]
  congr 1
  induction values.toList with
  | nil => rfl
  | cons entry rest ih =>
      rw [List.map_cons, List.flatten_cons, ih, List.filter_cons]
      split <;> rfl

end platformText

end lists

end Build

end DocPages
