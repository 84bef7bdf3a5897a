/-
This file shows that evaluation on a store of scopes only adds frames of applications, and that it
gives the values of the evaluation that hands scopes on.
-/

import Mathlib.Data.List.Basic
import Reckon.Proofs.Session.Plain
import Reckon.Proofs.Session.Store

namespace Reckon

namespace Store

/-- A store grows by frames of applications. -/
def Grows (before after : Store) : Prop :=
  ∃ frames, after = before ++ frames ∧
    ∀ frame ∈ frames, ∃ name value outer, frame = Frame.ofCall name value outer

/-- A store keeps all of its scopes but the global one. -/
def Keeps (before after : Store) : Prop :=
  ∀ address frame, 0 < address → before[address]? = some frame → after[address]? = some frame

theorem Grows.refl (store : Store) : store.Grows store := ⟨[], by simp, by simp⟩

theorem Grows.trans {first second third : Store} (left : first.Grows second)
    (right : second.Grows third) : first.Grows third := by
  obtain ⟨frames, rfl, all⟩ := left
  obtain ⟨others, rfl, all'⟩ := right
  refine ⟨frames ++ others, List.append_assoc .., ?_⟩
  intro frame member
  rcases List.mem_append.1 member with here | later
  · exact all frame here
  · exact all' frame later

/-- Growth changes no frame. -/
theorem Grows.getElem? {before after : Store} (grows : before.Grows after) {address : Address}
    {frame : Frame} (found : before[address]? = some frame) : after[address]? = some frame := by
  obtain ⟨frames, rfl, _⟩ := grows
  rw [List.getElem?_append_left (List.getElem?_eq_some_iff.1 found).1]
  exact found

theorem Grows.keeps {before after : Store} (grows : before.Grows after) : before.Keeps after :=
  fun _ _ _ found => grows.getElem? found

theorem Keeps.trans {first second third : Store} (left : first.Keeps second)
    (right : second.Keeps third) : first.Keeps third :=
  fun address frame inner found => right address frame inner (left address frame inner found)

/-- Setting a name changes the frame at the address and no other one. -/
theorem getElem?_set (store : Store) (address : Address) (name : String) (value : Stored)
    (other : Address) : (store.set address name value)[other]? =
      store[other]?.map fun frame => if address = other then frame.bind name value else frame := by
  rw [set, List.getElem?_modify]
  split <;> simp

/-- A name is set in the frame that was allocated last. -/
theorem set_last (store : Store) (frame : Frame) (name : String) (value : Stored) :
    Store.set (store ++ [frame]) store.length name value = store ++ [frame.bind name value] := by
  induction store with
  | nil => rfl
  | cons first others ih => exact congrArg (first :: ·) ih

/-- A global binding changes no other scope. -/
theorem keeps_set (store : Store) (name : String) (value : Stored) :
    store.Keeps (store.set 0 name value) := by
  intro address frame inner found
  rw [getElem?_set, found, Option.map_some, if_neg (Nat.ne_of_lt inner)]

end Store

namespace Step

variable {A B : Type}

/-- A step grows the store when it writes to no frame that was there before. -/
def Grows (step : Step A) : Prop := ∀ store : Store, store.Grows (step store).2

theorem grows_give (result : Result A) : (give result).Grows := fun store => .refl store

/-- A look at a name leaves the store alone. -/
theorem grows_lookup (span : Span) (name : String) (address : Address) :
    (lookup span name address).Grows := by
  intro store
  rw [lookup]
  split <;> exact .refl store

/-- Steps one after the other grow the store when each of them does. -/
theorem Grows.andThen {first : Step A} {next : A → Step B} (left : first.Grows)
    (right : ∀ value, (next value).Grows) : (first.andThen next).Grows := by
  intro store
  have grows := left store
  rw [Step.andThen]
  split
  · rename_i value middle result
    rw [result] at grows
    exact grows.trans (right value middle)
  · rename_i trouble middle result
    rw [result] at grows
    exact grows

/-- The frame of a call is complete before the body is evaluated. -/
theorem call_eq (outer : Address) (param : String) (arg : Stored) (body : Address → Step A)
    (store : Store) :
    (allocate outer).andThen (fun scope => (bind scope param arg).andThen fun _ => body scope) store =
      body store.length (store ++ [.ofCall param arg outer]) := by
  change body store.length (Store.set _ _ _ _) = _
  rw [Store.set_last]
  rfl

/-- A call writes its argument to the frame that it allocates, so it grows the store. -/
theorem grows_call {body : Address → Step A} (each : ∀ scope, (body scope).Grows) (outer : Address)
    (param : String) (arg : Stored) :
    ((allocate outer).andThen fun scope => (bind scope param arg).andThen fun _ => body scope).Grows := by
  intro store
  rw [call_eq]
  have grown : store.Grows (store ++ [.ofCall param arg outer]) :=
    ⟨_, rfl, by simp⟩
  exact grown.trans (each _ _)

end Step

namespace Expression

variable {call : Span → Address → String → Stored → Expression → Step Stored} {scope : Address}

mutual

/-- Evaluation writes to no frame when calls do not. -/
theorem evalIn_grows (calls : ∀ span outer param arg body, (call span outer param arg body).Grows)
    (expression : Expression) : (expression.evalIn call scope).Grows := by
  cases expression with
  | hole | literal _ _ | function _ _ _ => exact Step.grows_give _
  | ident span name => exact Step.grows_lookup span name scope
  | unary span operator operand =>
      exact (evalIn_grows calls operand).andThen fun _ => Step.grows_give _
  | binary span operator left right =>
      exact (evalIn_grows calls left).andThen fun _ =>
        (evalIn_grows calls right).andThen fun _ => Step.grows_give _
  | apply span callee arg =>
      refine (evalIn_grows calls callee).andThen fun callee => ?_
      split
      · exact (evalIn_grows calls arg).andThen fun _ => calls _ _ _ _ _
      · exact Step.grows_give _
  | list span elems =>
      exact (evalElementsIn_grows calls none elems).andThen fun _ => Step.grows_give _

/-- The evaluation of a list grows the store when calls do. -/
theorem evalElementsIn_grows
    (calls : ∀ span outer param arg body, (call span outer param arg body).Grows)
    (expected : Option Variety) (elems : List Expression) :
    (evalElementsIn call scope expected elems).Grows := by
  cases elems with
  | nil => exact Step.grows_give _
  | cons elem elems =>
      refine (evalIn_grows calls elem).andThen fun value => ?_
      dsimp only
      split
      · exact (evalElementsIn_grows calls _ elems).andThen fun _ => Step.grows_give _
      · exact Step.grows_give _

end

/-- An evaluation grows the store, whatever its depth is. -/
theorem evalInWithin_grows (limit depth : Nat) (scope : Address) (expression : Expression) :
    (expression.evalInWithin limit depth scope).Grows := by
  induction depth generalizing scope expression with
  | zero => exact evalIn_grows (fun _ _ _ _ _ => Step.grows_give _) expression
  | succ depth ih =>
      exact evalIn_grows (fun _ outer param arg body => Step.grows_call (fun scope => ih scope body) _ _ _)
        expression

end Expression

mutual

/-- A stored value shows a value when its closures refer to the scopes of the value. -/
inductive Shows (store : Store) : Stored → Value → Prop
  | int (value : Int64) : Shows store (.int value) (.int value)
  | float (value : Float) : Shows store (.float value) (.float value)
  | unit : Shows store .unit .unit
  | list {elems : List Stored} {values : List Value} (all : ShowsAll store elems values) :
      Shows store (.list elems) (.list values)
  | closure {param : String} {body : Expression} {address : Address} {scope : Scope}
      (within : ShowsScope store address scope) :
      Shows store (.closure param body address) (.closure param body scope)

inductive ShowsAll (store : Store) : List Stored → List Value → Prop
  | nil : ShowsAll store [] []
  | cons {elem : Stored} {value : Value} {elems : List Stored} {values : List Value}
      (here : Shows store elem value) (later : ShowsAll store elems values) :
      ShowsAll store (elem :: elems) (value :: values)

/-- An address shows a scope when the frames from it outwards have the bindings of the scope. -/
inductive ShowsScope (store : Store) : Address → Scope → Prop
  | global : ShowsScope store 0 .global
  | call {address outer : Address} {name : String} {stored : Stored} {value : Value} {scope : Scope}
      (found : store[address]? = some (.ofCall name stored outer)) (older : outer < address)
      (shows : Shows store stored value) (around : ShowsScope store outer scope) :
      ShowsScope store address (.call name value scope)

end

section Kept

variable {before after : Store}

mutual

/-- What is shown does not depend on the global bindings. -/
theorem Shows.kept (keeps : before.Keeps after) {stored : Stored} {value : Value} :
    Shows before stored value → Shows after stored value
  | .int value => .int value
  | .float value => .float value
  | .unit => .unit
  | .list all => .list (all.kept keeps)
  | .closure within => .closure (within.kept keeps)

/-- Stored values show the same values in a store that keeps its scopes. -/
theorem ShowsAll.kept (keeps : before.Keeps after) {elems : List Stored} {values : List Value} :
    ShowsAll before elems values → ShowsAll after elems values
  | .nil => .nil
  | .cons here later => .cons (here.kept keeps) (later.kept keeps)

/-- An address shows the same scope in a store that keeps its scopes. -/
theorem ShowsScope.kept (keeps : before.Keeps after) {address : Address} {scope : Scope} :
    ShowsScope before address scope → ShowsScope after address scope
  | .global => .global
  | .call found older shows around =>
      .call (keeps _ _ (Nat.zero_lt_of_lt older) found) older (shows.kept keeps) (around.kept keeps)

end

end Kept

section Plain

variable {store : Store} {stored left right : Stored} {value value' : Value}

theorem Shows.variety (shows : Shows store stored value) : stored.outline.variety = value.variety := by
  cases shows <;> rfl

mutual

/-- The text of a closure does not show its scope. -/
theorem Shows.text {stored : Stored} {value : Value} :
    Shows store stored value → stored.outline.text = value.text
  | .int _ => rfl
  | .float _ => rfl
  | .unit => rfl
  | .list all => by rw [Stored.outline, Value.text, Value.text, all.text]
  | .closure _ => rfl

/-- Stored elements are written like the values that they show. -/
theorem ShowsAll.text {elems : List Stored} {values : List Value} :
    ShowsAll store elems values → Value.elementsText (Stored.outlineAll elems) = Value.elementsText values
  | .nil => rfl
  | .cons here later => by
      rw [Stored.outlineAll, Value.elementsText, Value.elementsText, here.text, later.text]

end

theorem Shows.applyUnary (shows : Shows store stored value) (span : Span) (operator : Operator) :
    operator.applyUnary span stored.outline = operator.applyUnary span value := by
  cases shows <;> cases operator <;> rfl

/-- An operator does the same to stored values as to the values that they show. -/
theorem Shows.applyBinary (shows : Shows store left value) (shows' : Shows store right value')
    (span : Span) (operator : Operator) :
    operator.applyBinary span left.outline right.outline = operator.applyBinary span value value' := by
  cases shows <;> cases shows' <;> rfl

/-- A plain value is stored as it is. -/
theorem Value.Plain.shows (plain : value.Plain) : Shows store (.ofPlain value) value := by
  cases plain with
  | int number => exact .int number
  | float number => exact .float number
  | unit => exact .unit

end Plain

/-- Optional values are related in every weaker sense too. -/
theorem rel_imp {A B : Type} {first second : A → B → Prop}
    (implies : ∀ left right, first left right → second left right) {left : Option A}
    {right : Option B} : Option.Rel first left right → Option.Rel second left right
  | .some related => .some (implies _ _ related)
  | .none => .none

/-- A store represents global bindings when its first frame shows them. -/
def Store.Represents (store : Store) (globals : Bindings) : Prop :=
  ∃ frame, store[0]? = some frame ∧ frame.outer = none ∧
    ∀ name, Option.Rel (Shows store) (frame.values name) (globals.get? name)

/-- A store that grows represents the same global bindings. -/
theorem Store.Represents.grown {before after : Store} {globals : Bindings}
    (represents : before.Represents globals) (grows : before.Grows after) :
    after.Represents globals := by
  obtain ⟨frame, found, outermost, all⟩ := represents
  exact ⟨frame, grows.getElem? found, outermost, fun name =>
    rel_imp (fun _ _ shows => shows.kept grows.keeps) (all name)⟩

/-- An address that shows a scope is in the store. -/
theorem ShowsScope.lt {store : Store} {globals : Bindings} {address : Address} {scope : Scope}
    (within : ShowsScope store address scope) (represents : store.Represents globals) :
    address < store.length := by
  cases within with
  | global =>
      obtain ⟨_, found, _⟩ := represents
      exact (List.getElem?_eq_some_iff.1 found).1
  | call found _ _ _ => exact (List.getElem?_eq_some_iff.1 found).1

/-- A name has the same value in a scope and in the frames that show it. -/
theorem ShowsScope.get? {store : Store} {globals : Bindings} {address : Address} {scope : Scope}
    (within : ShowsScope store address scope) (represents : store.Represents globals)
    (name : String) :
    Option.Rel (Shows store) (store.get? name address) (scope.get? globals name) := by
  obtain ⟨frame, found, outermost, all⟩ := represents
  fun_induction Scope.get? globals scope name generalizing address with
  | case1 name =>
      cases within
      rw [Store.get?, found]
      dsimp only
      have bound := all name
      cases here : frame.values name with
      | some value =>
          rw [here] at bound
          exact bound
      | none =>
          rw [here] at bound
          rw [outermost]
          exact bound
  | case2 bound value outer =>
      cases within with
      | call there older shows around =>
          rw [Store.get?, there]
          dsimp only [Frame.ofCall, Frame.bind, Frame.empty]
          rw [Function.update_self]
          exact .some shows
  | case3 bound value outer name other ih =>
      cases within with
      | call there older shows around =>
          rw [Store.get?, there]
          dsimp only [Frame.ofCall, Frame.bind, Frame.empty]
          rw [Function.update_of_ne other, if_pos older]
          exact ih around

/-- Results agree when both are values of which one shows the other, or the same trouble. -/
def Agree {A B : Type} (shows : A → B → Prop) : Result A → Result B → Prop
  | .ok stored, .ok value => shows stored value
  | .error trouble, .error trouble' => trouble = trouble'
  | _, _ => False

/-- What agrees with trouble is the same trouble. -/
theorem Agree.error {A B : Type} {shows : A → B → Prop} {result : Result A} {trouble : Trouble}
    (agree : Agree shows result (.error trouble)) : result = .error trouble := by
  cases result with
  | ok stored => cases agree
  | error trouble' => exact congrArg Except.error agree

/-- What agrees with a value is a stored value that shows it. -/
theorem Agree.ok {A B : Type} {shows : A → B → Prop} {result : Result A} {value : B}
    (agree : Agree shows result (.ok value)) : ∃ stored, result = .ok stored ∧ shows stored value := by
  cases result with
  | ok stored => exact ⟨stored, rfl, agree⟩
  | error trouble => cases agree

namespace Step

variable {A B C D : Type} {store : Store} {shows : Store → A → B → Prop} {shows' : Store → C → D → Prop}

/-- A step mirrors a result when it grows the store and ends with a result that agrees. -/
def Mirrors (step : Step A) (store : Store) (shows : Store → A → B → Prop) (result : Result B) :
    Prop :=
  store.Grows (step store).2 ∧ Agree (shows (step store).2) (step store).1 result

theorem mirrors_give {result : Result A} {result' : Result B}
    (agree : Agree (shows store) result result') : (give result).Mirrors store shows result' :=
  ⟨.refl store, agree⟩

/-- Two steps mirror a result in two parts, and the second one starts from a store that has grown. -/
theorem Mirrors.andThen {first : Step A} {next : A → Step C} {result : Result B} {outcome : Result D}
    (mirrors : first.Mirrors store shows result)
    (ok : ∀ stored value middle, result = .ok value → store.Grows middle → shows middle stored value →
      (next stored).Mirrors middle shows' outcome)
    (error : ∀ trouble, result = .error trouble → outcome = .error trouble) :
    (first.andThen next).Mirrors store shows' outcome := by
  obtain ⟨grows, agree⟩ := mirrors
  unfold Mirrors Step.andThen
  cases ran : first store with
  | mk found middle =>
  rw [ran] at grows agree
  cases found with
  | ok stored =>
      cases result with
      | ok value =>
          obtain ⟨more, same⟩ := ok stored value middle rfl grows agree
          exact ⟨grows.trans more, same⟩
      | error trouble => cases agree
  | error trouble =>
      cases result with
      | ok value => cases agree
      | error trouble' =>
          rw [error trouble' rfl]
          exact ⟨grows, agree⟩

/-- A call mirrors what its body does with the argument in a new frame. -/
theorem Mirrors.call {outer : Address} {param : String} {arg : Stored} {body : Address → Step A}
    {result : Result B}
    (mirrors : (body store.length).Mirrors (store ++ [.ofCall param arg outer]) shows result) :
    ((allocate outer).andThen fun scope => (bind scope param arg).andThen fun _ => body scope).Mirrors
      store shows result := by
  have grown : store.Grows (store ++ [.ofCall param arg outer]) := ⟨_, rfl, by simp⟩
  rw [Mirrors, call_eq]
  exact ⟨grown.trans mirrors.1, mirrors.2⟩

end Step

/-- Calls mirror when they do for every closure and argument. -/
def CallsMirror (globals : Bindings)
    (callIn : Span → Address → String → Stored → Expression → Step Stored)
    (call : Span → Scope → Expression → Result Value) : Prop :=
  ∀ store span address scope param stored value body, store.Represents globals →
    ShowsScope store address scope → Shows store stored value →
      (callIn span address param stored body).Mirrors store Shows
        (call span (.call param value scope) body)

namespace Expression

variable {globals : Bindings} {callIn : Span → Address → String → Stored → Expression → Step Stored}
  {call : Span → Scope → Expression → Result Value} {address : Address} {scope : Scope}

/-- A name is found in a frame when it is in the scope that the frame shows. -/
theorem ident_mirrors {store : Store} (represents : store.Represents globals)
    (within : ShowsScope store address scope) (span : Span) (name : String) :
    ((ident span name).evalIn callIn address).Mirrors store Shows
      ((ident span name).evalWith globals call scope) := by
  have bound := within.get? represents name
  rw [evalIn, evalWith]
  unfold Step.Mirrors Step.lookup
  revert bound
  cases store.get? name address with
  | some stored =>
      cases scope.get? globals name with
      | some value =>
          rintro (shows | _)
          exact ⟨.refl store, shows⟩
      | none =>
          intro shows
          cases shows
  | none =>
      cases scope.get? globals name with
      | some value =>
          intro shows
          cases shows
      | none => exact fun _ => ⟨.refl store, rfl⟩

mutual

/-- Evaluation in a frame mirrors evaluation in the scope that the frame shows. -/
theorem evalIn_mirrors {store : Store} (calls : CallsMirror globals callIn call)
    (represents : store.Represents globals) (within : ShowsScope store address scope)
    (expression : Expression) : (expression.evalIn callIn address).Mirrors store Shows
      (expression.evalWith globals call scope) := by
  cases expression with
  | hole => exact Step.mirrors_give rfl
  | literal span literal =>
      apply Step.mirrors_give
      rw [evalWith]
      cases found : literal.value with
      | ok value => exact (Literal.value_plain found).shows
      | error trouble => exact rfl
  | ident span name => exact ident_mirrors represents within span name
  | unary span operator operand =>
      refine (evalIn_mirrors calls represents within operand).andThen ?_ ?_
      · intro stored value middle found grows shows
        apply Step.mirrors_give
        rw [evalWith, found, shows.applyUnary]
        dsimp only
        cases applied : operator.applyUnary span value with
        | ok value => exact (Operator.applyUnary_plain applied).shows
        | error trouble => exact rfl
      · intro trouble found
        rw [evalWith, found]
  | binary span operator left right =>
      refine (evalIn_mirrors calls represents within left).andThen ?_ ?_
      · intro first value middle found grows shows
        refine (evalIn_mirrors calls (represents.grown grows) (within.kept grows.keeps) right).andThen
          ?_ ?_
        · intro second value' last found' grows' shows'
          apply Step.mirrors_give
          rw [evalWith, found, found', (shows.kept grows'.keeps).applyBinary shows']
          dsimp only
          cases applied : operator.applyBinary span value value' with
          | ok value => exact (Operator.applyBinary_plain applied).shows
          | error trouble => exact rfl
        · intro trouble found'
          rw [evalWith, found, found']
      · intro trouble found
        rw [evalWith, found]
  | function span param body => exact Step.mirrors_give (.closure within)
  | apply span callee arg =>
      refine (evalIn_mirrors calls represents within callee).andThen ?_ ?_
      · intro stored value middle found grows shows
        cases shows with
        -- The scope of the closure still stands in the store, which only grew since it was captured.
        | @closure param body outer scope' around =>
            refine (evalIn_mirrors calls (represents.grown grows) (within.kept grows.keeps)
              arg).andThen ?_ ?_
            · intro stored' value' last found' grows' shows'
              rw [evalWith, found, found']
              exact calls _ _ _ _ _ _ _ _ ((represents.grown grows).grown grows')
                (around.kept grows'.keeps) shows'
            · intro trouble found'
              rw [evalWith, found, found']
        | int | float | unit | list =>
            apply Step.mirrors_give
            rw [evalWith, found]
            exact rfl
      · intro trouble found
        rw [evalWith, found]
  | list span elems =>
      refine (evalElementsIn_mirrors calls represents within none elems).andThen ?_ ?_
      · intro stored values middle found grows all
        apply Step.mirrors_give
        rw [evalWith, found]
        exact .list all
      · intro trouble found
        rw [evalWith, found]

/-- The evaluation of a list in a store mirrors that of its values when calls do. -/
theorem evalElementsIn_mirrors {store : Store} (calls : CallsMirror globals callIn call)
    (represents : store.Represents globals) (within : ShowsScope store address scope)
    (expected : Option Variety) (elems : List Expression) :
    (evalElementsIn callIn address expected elems).Mirrors store ShowsAll
      (evalElements globals call scope expected elems) := by
  cases elems with
  | nil => exact Step.mirrors_give .nil
  | cons elem elems =>
      refine (evalIn_mirrors calls represents within elem).andThen ?_ ?_
      · intro stored value middle found grows shows
        rw [evalElements, found]
        dsimp only
        rw [shows.variety]
        split
        · refine (evalElementsIn_mirrors calls (represents.grown grows) (within.kept grows.keeps) _
            elems).andThen ?_ ?_
          · intro others values last found' grows' all
            apply Step.mirrors_give
            rw [found']
            exact .cons (shows.kept grows'.keeps) all
          · intro trouble found'
            rw [found']
        · exact Step.mirrors_give rfl
      · intro trouble found
        rw [evalElements, found]

end

/-- The limit on nested calls is met at the same place. -/
theorem evalInWithin_mirrors {store : Store} (represents : store.Represents globals)
    (within : ShowsScope store address scope) (limit depth : Nat) (expression : Expression) :
    (expression.evalInWithin limit depth address).Mirrors store Shows
      (expression.evalWithin globals limit depth scope) := by
  induction depth generalizing store address scope expression with
  | zero =>
      refine evalIn_mirrors ?_ represents within expression
      intro store span address scope param stored value body _ _ _
      exact Step.mirrors_give rfl
  | succ depth ih =>
      refine evalIn_mirrors ?_ represents within expression
      intro store span address scope param stored value body represents within shows
      have grown : store.Grows (store ++ [.ofCall param stored address]) := ⟨_, rfl, by simp⟩
      have opened : ShowsScope (store ++ [.ofCall param stored address]) store.length
          (.call param value scope) := by
        exact .call (by simp) (within.lt represents) (shows.kept grown.keeps) (within.kept grown.keeps)
      exact Step.Mirrors.call (ih (represents.grown grown) opened body)

end Expression

end Reckon
