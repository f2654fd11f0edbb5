import Switchboard.Proofs.Catalogue.Acceptance
import Switchboard.Proofs.Route.Joining

/-!
# Compiling below a prefix

A prefix is put in front of every path, and with it in front of every text on which the walk over
entries compares paths.  The walk below a prefix therefore mirrors the walk without one: the shape
up to a parameter of a path's own is the old shape behind a fixed text (`markOf`), and the shapes
up to the parameters of the prefix itself are too short to be among them.  These parameters are the
same for every entry, so they never disagree, but they must have names; nothing is said of a prefix
with a parameter that has none.
-/

namespace Switchboard
namespace Catalogue

open Endpoint (Declaration)

/-! ### What a prefix changes -/

/-- A problem with the path that it quotes below a prefix. -/
def Problem.below (routePrefix : String) : Problem → Problem
  | .takenRoute method path other => .takenRoute method (Route.joined [routePrefix, path]) other
  | .renamedParameter path name other otherName =>
    .renamedParameter (Route.joined [routePrefix, path]) name other otherName
  | .unnamedParameter path => .unnamedParameter (Route.joined [routePrefix, path])
  | problem => problem

def Diagnostic.below (routePrefix : String) (diagnostic : Diagnostic) : Diagnostic :=
  { diagnostic with problem := diagnostic.problem.below routePrefix }

/-- An entry with its path below a prefix. -/
def Entry.below (routePrefix : String) (entry : Entry) : Entry :=
  { entry with
    route := { entry.route with path := Route.joined [routePrefix, entry.route.path] } }

def Controller.below (routePrefix : String) (controller : Controller) : Controller :=
  { controller with entries := controller.entries.map (Entry.below routePrefix) }

@[simp]
theorem Entry.below_controller (routePrefix : String) (entry : Entry) :
    (entry.below routePrefix).route.controller = entry.route.controller := rfl

@[simp]
theorem Entry.below_method (routePrefix : String) (entry : Entry) :
    (entry.below routePrefix).route.method = entry.route.method := rfl

@[simp]
theorem Entry.below_contract (routePrefix : String) (entry : Entry) :
    (entry.below routePrefix).contract = entry.contract := rfl

theorem Entry.below_path (routePrefix : String) (entry : Entry) :
    (entry.below routePrefix).route.path = Route.joined [routePrefix, entry.route.path] := rfl

@[simp]
theorem Controller.below_name (routePrefix : String) (controller : Controller) :
    (controller.below routePrefix).name = controller.name := rfl

/-- A catalogue with all paths below a prefix. -/
def below (routePrefix : String) (catalogue : Catalogue) : Catalogue :=
  ⟨catalogue.controllers.map (Controller.below routePrefix)⟩

variable {routePrefix : String}

/-! ### Each declaration alone -/

theorem kindOf_below (d : Declaration) :
    ∀ problem ∈ (kindOf d).problems, problem.below routePrefix = problem := by
  unfold kindOf
  split <;> simp [Check.problems, Problem.below]

theorem controllerOf_below (d : Declaration) :
    ∀ problem ∈ (controllerOf d).problems, problem.below routePrefix = problem := by
  unfold controllerOf
  split
  · simp [Check.problems]
  · split <;> simp [Check.problems, Problem.below]

theorem statusesOf_below (d : Declaration) :
    ∀ problem ∈ (statusesOf d).problems, problem.below routePrefix = problem := by
  unfold statusesOf
  dsimp only
  split <;> simp [Check.problems, Problem.below]

theorem handlerOf_below (d : Declaration) :
    ∀ problem ∈ (handlerOf d).problems, problem.below routePrefix = problem := by
  unfold handlerOf
  split <;> simp [Check.problems, Problem.below]

theorem capabilityOf_below (kind : Endpoint.Kind) (signature : Endpoint.Signature) :
    ∀ problem ∈ (capabilityOf kind signature).problems, problem.below routePrefix = problem := by
  unfold capabilityOf
  split
  · split <;> simp [Check.problems, Problem.below]
  · simp [Check.problems]
  · simp [Check.problems, Problem.below]

theorem argumentsOf_below (requestType : String) (signature : Endpoint.Signature) :
    ∀ problem ∈ (argumentsOf requestType signature).problems,
      problem.below routePrefix = problem := by
  have hProblems : ∀ problem ∈ paramProblems requestType signature,
      problem.below routePrefix = problem := by
    intro problem hMem
    rcases List.mem_append.mp hMem with hRepeated | hRequests
    · obtain ⟨name, -, rfl⟩ := List.mem_map.mp hRepeated
      rfl
    · split at hRequests
      · rw [List.mem_singleton.mp hRequests]
        rfl
      · cases hRequests
  unfold argumentsOf
  split
  · simp [Check.problems]
  · exact hProblems

/-- What is wrong with a declaration alone quotes no path. -/
theorem problemsOf_below (d : Declaration) :
    ∀ problem ∈ problemsOf d, problem.below routePrefix = problem := by
  intro problem hMem
  simp only [problemsOf, List.mem_append] at hMem
  rcases hMem with (((hKind | hController) | hStatuses) | hHandler) | hSignature
  · exact kindOf_below d problem hKind
  · exact controllerOf_below d problem hController
  · exact statusesOf_below d problem hStatuses
  · exact handlerOf_below d problem hHandler
  · split at hSignature
    · rcases List.mem_append.mp hSignature with hCapability | hArguments
      · exact capabilityOf_below _ _ problem hCapability
      · exact argumentsOf_below _ _ problem hArguments
    · cases hSignature

theorem joined_empty_cons (part : String) (parts : List String) :
    Route.joined (part :: "" :: parts) = Route.joined (part :: parts) := by
  have hEmpty : Route.bodySegments [""] = [] := by decide
  rw [Route.joined_eq_iff, Route.bodySegments_cons, Route.bodySegments_cons "", hEmpty,
    List.nil_append, ← Route.bodySegments_cons]

theorem Parts.entry_below (routePrefix : String) (d : Declaration) (parts : Parts) :
    parts.entry routePrefix d = (parts.entry "" d).below routePrefix := by
  simp only [Parts.entry, routeOf, Entry.below]
  rw [Route.joined_joined, joined_empty_cons]

/-- A declaration is refused for the same problems below any prefix. -/
theorem entryOf_below (routePrefix : String) (d : Declaration) :
    entryOf routePrefix d = (entryOf "" d).map (Entry.below routePrefix) := by
  unfold entryOf
  split
  · rename_i parts _ _
    rw [Parts.entry_below]
    rfl
  · rfl

theorem compileEach_below (routePrefix : String) (ds : List Declaration) :
    compileEach routePrefix ds =
      ((compileEach "" ds).1.map (Diagnostic.below routePrefix),
        (compileEach "" ds).2.map (Entry.below routePrefix)) := by
  induction ds with
  | nil => rfl
  | cons d rest ih =>
      simp only [compileEach, ih, entryOf_below routePrefix d]
      cases hEntry : entryOf "" d with
      | ok entry => rfl
      | error problems =>
          have hProblems := ((entryOf_eq_error_iff "" d problems).mp hEntry).1
          have hBelow : ∀ problem ∈ problems, problem.below routePrefix = problem :=
            hProblems ▸ problemsOf_below d
          simp only [Except.map, List.map_append, List.map_map, Prod.mk.injEq, and_true,
            List.append_cancel_right_eq]
          exact List.map_congr_left fun problem hMem => by
            simp [Diagnostic.below, hBelow problem hMem]

theorem exists_of_mem_compileEach {ds : List Declaration} {entry : Entry}
    (hMem : entry ∈ (compileEach routePrefix ds).2) :
    ∃ d ∈ ds, entryOf routePrefix d = .ok entry := by
  induction ds with
  | nil => cases hMem
  | cons d rest ih =>
      cases hEntry : entryOf routePrefix d with
      | ok first =>
          simp only [compileEach, hEntry] at hMem
          rcases List.mem_cons.mp hMem with rfl | hRest
          · exact ⟨d, by simp, hEntry⟩
          · obtain ⟨other, hOther, hOk⟩ := ih hRest
            exact ⟨other, List.mem_cons_of_mem _ hOther, hOk⟩
      | error problems =>
          simp only [compileEach, hEntry] at hMem
          obtain ⟨other, hOther, hOk⟩ := ih hMem
          exact ⟨other, List.mem_cons_of_mem _ hOther, hOk⟩

/-! ### Parameters below a prefix -/

/-- The shape of a prefix without a slash at its end, which stands before the shape of each path
below it. -/
def markOf (routePrefix : String) : String :=
  Text.glue '/' ("" :: (Route.bodySegments [routePrefix]).map Route.segmentShape)

/-- The parameters of a prefix, each with the shape of the path up to it. -/
def prefixParameters (routePrefix : String) : List (String × String) :=
  namedShapes [""] (Route.bodySegments [routePrefix])

theorem glue_empty_append (shapes : List String) {others : List String} (hNe : others ≠ []) :
    Text.glue '/' ("" :: (shapes ++ others)) =
      Text.glue '/' ("" :: shapes) ++ Text.glue '/' ("" :: others) := by
  have hOthers : Text.glue '/' ("" :: others) = "/" ++ Text.glue '/' others := by
    rw [← List.singleton_append, Text.glue_append '/' (by simp) hNe]
    rfl
  rw [← List.cons_append, Text.glue_append '/' (by simp) hNe, hOthers, String.append_assoc]
  rfl

/-- Shapes behind other shapes begin with the text of these. -/
theorem namedShapes_below (shapes before segments : List String) :
    namedShapes ("" :: (shapes ++ before)) segments =
      (namedShapes ("" :: before) segments).map fun param =>
        (Text.glue '/' ("" :: shapes) ++ param.1, param.2) := by
  induction segments generalizing before with
  | nil => rfl
  | cons segment rest ih =>
      have hRest := ih (before ++ [Route.segmentShape segment])
      have hNe : before ++ [Route.segmentShape segment] ≠ [] := by simp
      have hGlue := glue_empty_append shapes hNe
      rw [namedShapes, namedShapes]
      cases Route.parameter? segment with
      | none => simpa using hRest
      | some parameter => simpa using ⟨by simpa using hGlue, hRest⟩

theorem namedShapes_joined (parts : List String) :
    namedShapes [] (Route.segments (Route.joined parts)) =
      namedShapes [""] (Route.bodySegments parts) := by
  have hNone : Route.parameter? "" = none := rfl
  have hFirst : ∀ before rest, namedShapes before ("" :: rest) =
      namedShapes (before ++ [""]) rest := by
    intro before rest
    simp [namedShapes, hNone, Route.segmentShape_of_eq_none]
  rw [Route.segments_joined, hFirst, List.nil_append, Route.rooted]
  split_ifs with hBody
  · rw [hBody, hFirst]
    rfl
  · rfl

/-- The parameters of a path below a prefix are those of the prefix and its own. -/
theorem namedShapes_joined_cons (routePrefix : String) (parts : List String) :
    namedShapes [] (Route.segments (Route.joined (routePrefix :: parts))) =
      prefixParameters routePrefix ++
        (namedShapes [] (Route.segments (Route.joined parts))).map fun param =>
          (markOf routePrefix ++ param.1, param.2) := by
  have hOwn := namedShapes_below ((Route.bodySegments [routePrefix]).map Route.segmentShape) []
    (Route.bodySegments parts)
  rw [List.append_nil] at hOwn
  rw [namedShapes_joined, namedShapes_joined, Route.bodySegments_cons, namedShapes_append,
    List.singleton_append, hOwn]
  rfl

theorem ne_empty_of_mem_namedShapes {path shape name : String} {parts : List String}
    (hPath : path = Route.joined parts)
    (hMem : (shape, name) ∈ namedShapes [] (Route.segments path)) : shape ≠ "" := by
  rw [hPath, namedShapes_joined, mem_namedShapes_from] at hMem
  obtain ⟨i, segment, -, hSegment, -, rfl, -⟩ := hMem
  have hNe : ((Route.bodySegments parts).take (i + 1)).map Route.segmentShape ≠ [] := by
    intro hNil
    rw [List.map_eq_nil_iff, List.take_eq_nil_iff] at hNil
    rcases hNil with hZero | hNil
    · omega
    · simp [hNil] at hSegment
  rw [Text.glue_append '/' (by simp) hNe]
  simp [Text.glue, Text.join]

/-- The shapes up to the parameters of a prefix are no longer than the mark of the prefix. -/
theorem length_le_of_mem_prefixParameters {shape name : String}
    (hMem : (shape, name) ∈ prefixParameters routePrefix) :
    shape.length ≤ (markOf routePrefix).length := by
  obtain ⟨i, -, -, -, -, rfl, -⟩ := (mem_namedShapes_from _ _ _ _).mp hMem
  have hWhole := List.take_append_drop (i + 1)
    ((Route.bodySegments [routePrefix]).map Route.segmentShape)
  rw [markOf, ← hWhole, List.map_take, List.singleton_append]
  cases hRest : ((Route.bodySegments [routePrefix]).map Route.segmentShape).drop (i + 1) with
  | nil => rw [List.append_nil]
  | cons next more =>
      rw [glue_empty_append _ (by simp), String.length_append]
      omega

theorem ne_mark_append_of_mem_prefixParameters {shape name key : String}
    (hMem : (shape, name) ∈ prefixParameters routePrefix) (hKey : key ≠ "") :
    shape ≠ markOf routePrefix ++ key := by
  intro hEq
  have hLength := length_le_of_mem_prefixParameters hMem
  have hPositive : key.length ≠ 0 := fun hZero => hKey (String.length_eq_zero_iff.mp hZero)
  rw [hEq, String.length_append] at hLength
  omega

theorem prefixParameters_eq (routePrefix : String) :
    prefixParameters routePrefix =
      namedShapes [] (Route.segments (Route.joined [routePrefix])) :=
  (namedShapes_joined [routePrefix]).symm

/-- A prefix gives one name after one shape. -/
theorem prefixParameters_consistent {shape name other : String}
    (hMem : (shape, name) ∈ prefixParameters routePrefix)
    (hOther : (shape, other) ∈ prefixParameters routePrefix) : name = other := by
  rw [prefixParameters_eq] at hMem hOther
  exact (namedAlike_iff _ _).mp (Route.namedAlike_self _) shape name other hMem hOther

theorem prefixParameters_named (hNamed : Route.IsNamed routePrefix) {shape name : String}
    (hMem : (shape, name) ∈ prefixParameters routePrefix) : name ≠ "" := by
  obtain ⟨i, segment, parameter, hSegment, hParameter, -, rfl⟩ :=
    (mem_namedShapes_from _ _ _ _).mp hMem
  exact hNamed segment (Route.bodySegments_singleton_subset routePrefix
    (List.mem_of_getElem? hSegment)) parameter hParameter

/-! ### The walk below a prefix -/

/-- The record of a shape that no parameter of the path has stays as it is. -/
theorem lookup?_checkParameters (endpoint path : String) {params : List (String × String)}
    {key : String} (hFree : ∀ param ∈ params, param.1 ≠ key)
    (taken : List (String × String × String)) :
    lookup? key (checkParameters endpoint path params taken).2 = lookup? key taken := by
  induction params generalizing taken with
  | nil => rfl
  | cons param rest ih =>
      obtain ⟨shape, name⟩ := param
      have hRest := ih fun other hOther => hFree other (List.mem_cons_of_mem _ hOther)
      obtain ⟨found, next, hStep, hCons⟩ := exists_checksTo endpoint path shape name taken
      rw [hCons]
      cases hStep with
      | unnamed hName => rfl
      | renamed hName hFound hOther => rfl
      | stands hName hRecorded => exact hRest taken
      | fresh hName hNone =>
          dsimp only
          rw [hRest, lookup?_append_of_ne (hFree (shape, name) (by simp))]

/-- Two records of parameters, of which the second has the texts of the first behind the mark of a
prefix. -/
def SameBehind (mark : String) (taken below : List (String × String × String)) : Prop :=
  ∀ key, key ≠ "" → lookup? (mark ++ key) below = lookup? key taken

theorem SameBehind.append {mark : String} {taken below : List (String × String × String)}
    (hSame : SameBehind mark taken below) (key : String) (row : String × String) :
    SameBehind mark (taken ++ [(key, row)]) (below ++ [(mark ++ key, row)]) := by
  intro other hOther
  rw [lookup?_append_singleton, lookup?_append_singleton, hSame other hOther]
  simp only [String.append_right_inj]

/-- Parameters behind a mark are checked as they are without it. -/
theorem SameBehind.checkParameters {mark : String}
    {taken below : List (String × String × String)} (hSame : SameBehind mark taken below)
    (routePrefix endpoint path : String) {params : List (String × String)}
    (hShapes : ∀ param ∈ params, param.1 ≠ "") :
    (checkParameters endpoint (Route.joined [routePrefix, path])
          (params.map fun param => (mark ++ param.1, param.2)) below).1 =
        (checkParameters endpoint path params taken).1.map (Problem.below routePrefix) ∧
      SameBehind mark (checkParameters endpoint path params taken).2
        (checkParameters endpoint (Route.joined [routePrefix, path])
          (params.map fun param => (mark ++ param.1, param.2)) below).2 := by
  induction params generalizing taken below with
  | nil => exact ⟨rfl, hSame⟩
  | cons param rest ih =>
      obtain ⟨shape, name⟩ := param
      have hRest := fun other hOther => hShapes other (List.mem_cons_of_mem _ hOther)
      rw [List.map_cons]
      unfold Catalogue.checkParameters
      dsimp only
      rw [hSame shape (hShapes (shape, name) (by simp))]
      split_ifs with hEmpty
      · exact ⟨rfl, hSame⟩
      · cases lookup? shape taken with
        | none => exact ih (hSame.append shape (endpoint, name)) hRest
        | some found =>
            dsimp only
            split_ifs with hName
            · exact ih hSame hRest
            · exact ⟨rfl, hSame⟩

/-- The tables of a walk and those of the walk below a prefix. -/
structure Taken.Below (routePrefix : String) (taken below : Taken) : Prop where
  contracts : below.contracts = taken.contracts
  routes : ∀ method parts,
    lookup? (method, Route.shape (Route.joined (routePrefix :: parts))) below.routes =
      lookup? (method, Route.shape (Route.joined parts)) taken.routes
  parameters : SameBehind (markOf routePrefix) taken.parameters below.parameters
  /-- What is recorded for the parameters of the prefix are their names. -/
  shared : ∀ shape name, (shape, name) ∈ prefixParameters routePrefix →
    ∀ other, nameAt? below.parameters shape = some other → other = name

theorem Taken.below_empty (routePrefix : String) : Taken.Below routePrefix .empty .empty :=
  ⟨rfl, by simp [Taken.empty, lookup?_nil], by simp [SameBehind, Taken.empty, lookup?_nil],
    by simp [Taken.empty, nameAt?, lookup?_nil]⟩

/-- The parameters of the prefix go through for each entry, and only their own records may be new
after that. -/
theorem Taken.Below.checkParameters_prefix {taken below : Taken}
    (hBelow : taken.Below routePrefix below) (hNamed : Route.IsNamed routePrefix)
    (endpoint path : String) :
    ∃ after, checkParameters endpoint path (prefixParameters routePrefix) below.parameters =
        (none, after) ∧
      SameBehind (markOf routePrefix) taken.parameters after ∧
      ∀ shape name, (shape, name) ∈ prefixParameters routePrefix →
        ∀ other, nameAt? after shape = some other → other = name := by
  have hNone : (checkParameters endpoint path (prefixParameters routePrefix)
      below.parameters).1 = none := by
    rw [checkParameters_fst_eq_none_iff _ _ _ _ fun _ _ _ => prefixParameters_consistent]
    exact fun shape name hMem =>
      ⟨prefixParameters_named hNamed hMem, hBelow.shared shape name hMem⟩
  obtain ⟨after, hCheck⟩ : ∃ after, checkParameters endpoint path
      (prefixParameters routePrefix) below.parameters = (none, after) := by
    rw [← hNone]
    exact ⟨_, (Prod.eta _).symm⟩
  refine ⟨after, hCheck, fun key hKey => ?_, fun shape name hMem other hOther => ?_⟩
  · have hFree : ∀ param ∈ prefixParameters routePrefix, param.1 ≠ markOf routePrefix ++ key :=
      fun param hParam => ne_mark_append_of_mem_prefixParameters hParam hKey
    have hKept := lookup?_checkParameters endpoint path hFree below.parameters
    rw [hCheck] at hKept
    rw [hKept, hBelow.parameters key hKey]
  · rcases (nameAt?_of_checkParameters_eq_none hCheck shape other).mp hOther with hOld | hNew
    · exact hBelow.shared shape name hMem other hOld
    · exact prefixParameters_consistent hNew hMem

/-- One step of the walk below a prefix mirrors the step without it. -/
theorem Taken.Below.checkEntry {taken below : Taken} (hBelow : taken.Below routePrefix below)
    (hNamed : Route.IsNamed routePrefix) {entry : Entry} {parts : List String}
    (hPath : entry.route.path = Route.joined parts) :
    (checkEntry below (entry.below routePrefix)).1 =
        (checkEntry taken entry).1.map (Problem.below routePrefix) ∧
      (checkEntry taken entry).2.Below routePrefix
        (checkEntry below (entry.below routePrefix)).2 := by
  have hJoined : (entry.below routePrefix).route.path = Route.joined (routePrefix :: parts) := by
    rw [Entry.below_path, hPath, Route.joined_joined]
  have hFound : lookup? ((entry.below routePrefix).route.method,
        Route.shape (entry.below routePrefix).route.path) below.routes =
      lookup? (entry.route.method, Route.shape entry.route.path) taken.routes := by
    rw [hJoined, hPath]
    exact hBelow.routes entry.route.method parts
  -- The parameters of the prefix come first and go through; the path's own are left.
  obtain ⟨after, hPrefix, hSame, hShared⟩ := hBelow.checkParameters_prefix hNamed
    entry.route.endpoint (entry.below routePrefix).route.path
  have hOwn := hSame.checkParameters routePrefix entry.route.endpoint entry.route.path
    fun param hParam => ne_empty_of_mem_namedShapes hPath hParam
  have hCheck : checkParameters (entry.below routePrefix).route.endpoint
        (entry.below routePrefix).route.path
        (namedShapes [] (Route.segments (entry.below routePrefix).route.path)) below.parameters =
      checkParameters entry.route.endpoint (Route.joined [routePrefix, entry.route.path])
        ((namedShapes [] (Route.segments entry.route.path)).map fun param =>
          (markOf routePrefix ++ param.1, param.2)) after := by
    have hShapes := namedShapes_joined_cons routePrefix parts
    rw [← hJoined, ← hPath] at hShapes
    rw [hShapes]
    exact checkParameters_append hPrefix _
  constructor
  · rw [checkEntry_fst, checkEntry_fst, hFound, hCheck, hOwn.1, hBelow.contracts,
      List.map_append, List.map_append, Option.toList_map, Option.toList_map, Option.toList_map,
      List.map_map]
    simp only [Entry.below_contract, Entry.below_method, Entry.below_path, apply_ite (List.map _),
      List.map_singleton, List.map_nil, Function.comp_def, Problem.below]
    rfl
  · refine ⟨?_, fun method others => ?_, ?_, fun shape name hMem other hOther => ?_⟩
    · simp only [checkEntry_contracts, hBelow.contracts]
      rfl
    · rw [checkEntry_routes, checkEntry_routes, hFound]
      cases lookup? (entry.route.method, Route.shape entry.route.path) taken.routes with
      | some _ => exact hBelow.routes method others
      | none =>
          dsimp only
          rw [lookup?_append_singleton, lookup?_append_singleton, hBelow.routes method others,
            hJoined, hPath]
          simp only [Prod.mk.injEq, Route.shape_joined_cons_eq_iff]
          rfl
    · rw [checkEntry_parameters, checkEntry_parameters, hCheck]
      exact hOwn.2
    · have hFree : ∀ param ∈ (namedShapes [] (Route.segments entry.route.path)).map
          fun param => (markOf routePrefix ++ param.1, param.2), param.1 ≠ shape := by
        intro param hParam
        obtain ⟨own, hOwnParam, rfl⟩ := List.mem_map.mp hParam
        exact (ne_mark_append_of_mem_prefixParameters hMem
          (ne_empty_of_mem_namedShapes hPath hOwnParam)).symm
      rw [checkEntry_parameters, hCheck, nameAt?, lookup?_checkParameters _ _ hFree] at hOther
      exact hShared shape name hMem other hOther

/-- The walk below a prefix finds what the walk without it finds. -/
theorem Taken.Below.collisionsAfter {taken below : Taken}
    (hBelow : taken.Below routePrefix below) (hNamed : Route.IsNamed routePrefix)
    {entries : List Entry} (hPaths : ∀ entry ∈ entries, ∃ parts, entry.route.path =
      Route.joined parts) :
    collisionsAfter below (entries.map (Entry.below routePrefix)) =
      (collisionsAfter taken entries).map (Diagnostic.below routePrefix) := by
  induction entries generalizing taken below with
  | nil => rfl
  | cons entry rest ih =>
      obtain ⟨parts, hPath⟩ := hPaths entry (by simp)
      obtain ⟨hProblems, hAfter⟩ := hBelow.checkEntry hNamed hPath
      have hRest := ih hAfter fun other hOther => hPaths other (List.mem_cons_of_mem _ hOther)
      rw [List.map_cons, Catalogue.collisionsAfter, Catalogue.collisionsAfter]
      dsimp only
      rw [hProblems, hRest, List.map_append, List.map_map, List.map_map]
      rfl

/-! ### Whole lists -/

theorem diagnose_below (hNamed : Route.IsNamed routePrefix) (ds : List Declaration) :
    diagnose routePrefix ds = (diagnose "" ds).map (Diagnostic.below routePrefix) := by
  have hPaths : ∀ entry ∈ (compileEach "" ds).2, ∃ parts, entry.route.path =
      Route.joined parts := by
    intro entry hEntry
    obtain ⟨d, -, hOk⟩ := exists_of_mem_compileEach hEntry
    exact ⟨_, (of_entryOf_eq_ok hOk).2.2⟩
  have hCollisions := (Taken.below_empty routePrefix).collisionsAfter hNamed hPaths
  unfold diagnose
  rw [compileEach_below routePrefix ds]
  dsimp only [collisions]
  rw [hCollisions, List.map_append]

theorem addEntry_below (entry : Entry) (controllers : List Controller) :
    addEntry (entry.below routePrefix) (controllers.map (Controller.below routePrefix)) =
      (addEntry entry controllers).map (Controller.below routePrefix) := by
  induction controllers with
  | nil => rfl
  | cons first rest ih =>
      rw [List.map_cons, addEntry, addEntry, ih, Entry.below_controller, Controller.below_name]
      split_ifs <;> simp [Controller.below]

/-- Grouping looks at no path. -/
theorem ofEntries_below (entries : List Entry) :
    ofEntries (entries.map (Entry.below routePrefix)) = (ofEntries entries).below routePrefix := by
  have hFold : ∀ controllers : List Controller,
      (entries.map (Entry.below routePrefix)).foldl
          (fun controllers entry => addEntry entry controllers)
          (controllers.map (Controller.below routePrefix)) =
        (entries.foldl (fun controllers entry => addEntry entry controllers)
          controllers).map (Controller.below routePrefix) := by
    induction entries with
    | nil => exact fun _ => rfl
    | cons entry rest ih =>
        intro controllers
        rw [List.map_cons, List.foldl_cons, List.foldl_cons, addEntry_below, ih]
  exact congrArg Catalogue.mk (hFold [])

/-- Declarations compile below a prefix exactly if they compile without one, to the same catalogue
with the prefix in front of each path.  Declarations that do not compile are refused with the same
diagnostics, in which the paths that are quoted have the prefix in front. -/
theorem compile_below_prefix (hNamed : Route.IsNamed routePrefix) (ds : List Declaration) :
    ((∃ catalogue, compile routePrefix ds = .ok catalogue) ↔
        ∃ catalogue, compile "" ds = .ok catalogue) ∧
      (∀ catalogue, compile "" ds = .ok catalogue →
        compile routePrefix ds = .ok (catalogue.below routePrefix)) ∧
      ∀ diagnostics, compile "" ds = .error diagnostics →
        compile routePrefix ds = .error (diagnostics.map (Diagnostic.below routePrefix)) := by
  have hDiagnose := diagnose_below hNamed ds
  have hEntries : (compileEach routePrefix ds).2 =
      (compileEach "" ds).2.map (Entry.below routePrefix) := by
    rw [compileEach_below]
  unfold compile
  rw [hDiagnose, hEntries, ofEntries_below]
  cases diagnose "" ds with
  | nil => simp
  | cons first rest => simp

/-- Below a prefix that holds a parameter of its own.  An order that is declared twice is refused at
the path below the prefix. -/
theorem sample_compile_below_prefix :
    compile "/api/{tenant}/" sampleDeclarations =
        .ok ((ofEntries (compileEach "" sampleDeclarations).2).below "/api/{tenant}/") ∧
      compile "/api/{tenant}/" [findOrder, findOrder] = .error
        [⟨"app::Orders::Find", .repeatedContract "app::Orders::Find::Query"⟩,
          ⟨"app::Orders::Find",
            .takenRoute .get "/api/{tenant}/orders/{id:int}" "app::Orders::Find"⟩] := by
  have hNamed : Route.IsNamed "/api/{tenant}/" := by decide +kernel
  have hSample : compile "" sampleDeclarations =
      .ok (ofEntries (compileEach "" sampleDeclarations).2) := by decide +kernel
  have hTwice : compile "" [findOrder, findOrder] = .error
      [⟨"app::Orders::Find", .repeatedContract "app::Orders::Find::Query"⟩,
        ⟨"app::Orders::Find", .takenRoute .get "/orders/{id:int}" "app::Orders::Find"⟩] := by
    decide +kernel
  obtain ⟨-, hOk, -⟩ := compile_below_prefix hNamed sampleDeclarations
  obtain ⟨-, -, hError⟩ := compile_below_prefix hNamed [findOrder, findOrder]
  exact ⟨hOk _ hSample, hError _ hTwice⟩

end Catalogue
end Switchboard
