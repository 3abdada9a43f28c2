import Refuge.Foundation.Owning
import Refuge.Pointers

/-!
# Memory of the shared functions

The functions of `cjson_handler.c` and `lib_handler.c` with what they allocate,
open and free.  A tree of cJSON counts as one block, which the items added to it
become part of.  An allocation may fail; what the functions return then is not
always what they say, but no block is freed that is not held.
-/

namespace Refuge

open Foundation

namespace Memory

/-- What is held. -/
inductive Kind
  /-- A text from `malloc` or `cJSON_Print`. -/
  | text
  /-- A tree from cJSON. -/
  | tree
  /-- An open file. -/
  | file
  deriving DecidableEq

/-- A pointer to a block, and what is in the block. -/
structure Ptr (Content : Type) where
  block : Block Kind
  content : Content

abbrev Program := Owning Kind Misuse

/-- Read through a pointer, null or not. -/
def deref {Content : Type} : Option (Ptr Content) → Program Content
  | none => stray .reads
  | some pointer => pure pointer.content

/-- `free_ptr`, and `free_cjson_ptr` on a tree. -/
def freePtr {Content : Type} : Option (Ptr Content) → Program Unit
  | none => pure ()
  | some pointer => free pointer.block

/-- `fopen`. -/
def fopen (fails : Bool) : Program (Option (Block Kind)) :=
  alloc (fun _ => !fails) .file

section

/- Whether the n-th allocation succeeds. -/
variable (cJSON : CJson) (allocates : Nat → Bool)

/-- Allocate a block with a content. -/
def new {Content : Type} (kind : Kind) (content : Content) : Program (Option (Ptr Content)) := do
  let block ← alloc allocates kind
  pure (block.map fun block => { block, content })

/-- `cJSON_Parse`; what was built of a text that does not parse is freed by it. -/
def parse (text : Option Text) : Program (Option (Ptr Json)) :=
  match text.bind cJSON.parse with
  | none => pure none
  | some tree => new allocates .tree tree

/-- `cJSON_Print`. -/
def print (tree : Json) : Program (Option (Ptr Text)) :=
  new allocates .text (cJSON.print tree)

/-- `cJSON_AddItemToObject`: the name is copied, and the copy and the item become
part of the object.  Without memory for the copy nothing is added. -/
def addItemToObject (object : Json) (key : Text) (item : Ptr Json) : Program Json := do
  match ← new allocates .text key with
  | none => pure object
  | some name => do
      absorb name.block
      absorb item.block
      pure (object.addItemToObject key item.content)

/-- `get_value_of_key_from_json_object`. -/
def getValueOfKeyFromJsonObject
    (cjsonObject : Json) (key : Text) : Program (Except Int (Ptr Text)) :=
  match cjsonObject.getObjectItemCaseSensitive key with
  | some (.string valuestring) => do
      let buffer ← new allocates .text valuestring
      pure (buffer.elim (.error 1) .ok)
  | some (.number valuedouble) => do
      let buffer ← new allocates .text (sprintfF valuedouble)
      pure (buffer.elim (.error 1) .ok)
  | some (.object members) => do
      -- Printed once for the length and once for the text; neither is freed.
      let _ ← deref (← print cJSON allocates (.object members))
      match ← alloc allocates .text with
      | none => pure (.error 1)
      | some block => do
          let content ← deref (← print cJSON allocates (.object members))
          pure (.ok { block, content })
  | _ => pure (.error 1)

/-- `get_value_of_key_from_json_string`. -/
def getValueOfKeyFromJsonString
    (cjsonBuffer key : Text) : Program (Except Int (Ptr Text)) := do
  match ← parse cJSON allocates (some cjsonBuffer) with
  | none => pure (.error (-1))
  | some cjsonObject => do
      let result ← getValueOfKeyFromJsonObject cJSON allocates cjsonObject.content key
      free cjsonObject.block
      pure (result.mapError fun _ => 1)

/-- `is_key_in_json_buffer`. -/
def isKeyInJsonBuffer (cjsonBuffer key : Text) : Program Bool := do
  match ← parse cJSON allocates (some cjsonBuffer) with
  | none => pure false
  | some cjsonObject => do
      free cjsonObject.block
      pure (isKeyInJsonObject cjsonObject.content key)

/-- `print_cjson`, without its output. -/
def printCjson (cjsonBuffer : Text) : Program Unit := do
  match ← parse cJSON allocates (some cjsonBuffer) with
  | none => pure ()
  | some cjsonObject => do
      match ← print cJSON allocates cjsonObject.content with
      | none => do
          -- Freed here and null from then on, so that it is not freed below.
          free cjsonObject.block
          stray .reads
      | some string => do
          free string.block
          free cjsonObject.block

/-- `json_object_to_json_string`. -/
def jsonObjectToJsonString
    (cjsonObject : Json) (buffer : Option Text) : Program (Except Int Text) :=
  match buffer with
  | none => pure (.error 1)
  | some _ => do
      match ← print cJSON allocates cjsonObject with
      | none => pure (.error 1)
      | some result => do
          free result.block
          pure (.ok result.content)

/-- The value `cjson_add_key_value_to_json_string` makes of a text. -/
def encodeValue (buffer : Text) (flags : Nat) : Program (Option (Ptr Json)) :=
  if flags &&& INTPARSE ≠ 0 ∧ (atof buffer).isZero = false then
    new allocates .tree (.number (atof buffer))
  else if flags &&& OBJPARSE ≠ 0 then
    parse cJSON allocates (some buffer)
  else
    new allocates .tree (.string buffer)

/-- `cJSON_Parse`, or `cJSON_CreateObject` if that yields nothing. -/
def parseOrCreate (cjsonBuffer : Option Text) : Program (Option (Ptr Json)) := do
  match ← parse cJSON allocates cjsonBuffer with
  | none => new allocates .tree (.object [])
  | some cjsonObject => pure (some cjsonObject)

/-- The end of `cjson_add_key_value_to_json_string`. -/
def addAndPrint (cjsonObject : Ptr Json) (key : Text) (value : Ptr Json)
    (cjsonBuffer : Option Text) : Program (Except Int Text) := do
  let object ← addItemToObject allocates cjsonObject.content key value
  let result ← jsonObjectToJsonString cJSON allocates object cjsonBuffer
  free cjsonObject.block
  pure result

/-- `cjson_add_key_value_to_json_string`: the new content of the buffer. -/
def cjsonAddKeyValueToJsonString
    (cjsonBuffer : Option Text) (key buffer : Text) (flags : Nat) :
    Program (Except Int Text) := do
  match ← parseOrCreate cJSON allocates cjsonBuffer with
  | none => pure (.error 1)
  | some cjsonObject => do
      match ← encodeValue cJSON allocates buffer flags with
      | none => do
          free cjsonObject.block
          pure (.error 1)
      | some value =>
          if isKeyInJsonObject cjsonObject.content key then
            if flags &&& OVERRIDE ≠ 0 then
              addAndPrint cJSON allocates
                { cjsonObject with content := cjsonObject.content.deleteItemFromObject key }
                key value cjsonBuffer
            else do
              free cjsonObject.block
              free value.block
              pure (.ok (cjsonBuffer.getD []))
          else addAndPrint cJSON allocates cjsonObject key value cjsonBuffer

/-- `read_file`. -/
def readFile (faults : FileFaults) (file : Text) : Program (Except Int (Ptr Text)) := do
  match ← fopen faults.openRead with
  | none => pure (.error 1)
  | some stream =>
      if faults.seekEnd ∨ faults.tell ∨ file.length = 0 ∨ faults.seekStart then do
        free stream
        pure (.error 1)
      else
        match ← new allocates .text file with
        | none => do
            free stream
            pure (.error 1)
        | some string =>
            if faults.shortRead then do
              free stream
              free string.block
              pure (.error 1)
            else do
              free stream
              pure (.ok string)

end

/-- `write_file`. -/
def writeFile (faults : FileFaults) (file buffer : Text) : Program (Int × Text) :=
  if buffer.length = 0 then pure (0, file)
  else do
    match ← fopen faults.openWrite with
    | none => pure (1, file)
    | some stream => do
        let bytesWritten := buffer.length - faults.refused
        free stream
        let flushed := buffer.take (bytesWritten - faults.lost)
        pure (if bytesWritten ≠ buffer.length then 1 else 0, flushed)

/-- `generate_log`. -/
def generateLog (openFails : Bool) (log timestamp message : Text) : Program (Int × Text) := do
  match ← fopen openFails with
  | none => pure (1, log)
  | some stream => do
      free stream
      pure (0, log ++ timestamp ++ ", ".toList ++ message ++ "\n".toList)

/-! ## What is lost -/

/-- Every allocation succeeds. -/
def Plenty (allocates : Nat → Bool) : Prop :=
  ∀ number, allocates number = true

/-- Blocks that nothing points to: texts and trees. -/
def Lost (texts trees : Nat) (blocks : Multiset (Block Kind)) : Prop :=
  blocks.map Block.kind = Multiset.replicate texts .text + Multiset.replicate trees .tree

theorem lost_zero : Lost 0 0 0 := rfl

theorem lost_text {block : Block Kind} (kind : block.kind = .text) : Lost 1 0 {block} := by
  simp [Lost, kind]

theorem lost_tree {block : Block Kind} (kind : block.kind = .tree) : Lost 0 1 {block} := by
  simp [Lost, kind]

theorem Lost.add
    {texts moreTexts trees moreTrees : Nat} {blocks more : Multiset (Block Kind)}
    (lost : Lost texts trees blocks) (also : Lost moreTexts moreTrees more) :
    Lost (texts + moreTexts) (trees + moreTrees) (blocks + more) := by
  unfold Lost at *
  rw [Multiset.map_add, lost, also, Multiset.replicate_add, Multiset.replicate_add]
  abel

theorem Lost.eq_zero {blocks : Multiset (Block Kind)} (lost : Lost 0 0 blocks) : blocks = 0 :=
  Multiset.map_eq_zero.mp lost

/-- A null pointer is read only where there is no memory. -/
def Scarce (allocates : Nat → Bool) (fault : Misuse) : Prop :=
  fault = .reads ∧ ¬Plenty allocates

section

variable {cJSON : CJson} {allocates : Nat → Bool} {allowed : Misuse → Prop}
  {held : Multiset (Block Kind)} {Content Result : Type}
  {post : Result → Multiset (Block Kind) → Prop}

/-! ## The rules of the small functions -/

theorem owns_new
    {kind : Kind} {content : Content} {later : Option (Ptr Content) → Program Result}
    (fails : ¬Plenty allocates → Owns allowed held (later none) post)
    (succeeds : ∀ pointer : Ptr Content, pointer.block.kind = kind → pointer.content = content →
      Owns allowed ({pointer.block} + held) (later (some pointer)) post) :
    Owns allowed held (new allocates kind content >>= later) post := by
  rw [new, bind_assoc]
  refine .alloc allocates kind (fun number failed => ?_) fun block same _ => ?_
  · rw [pure_bind]
    exact fails fun plenty => by simp [plenty number] at failed
  · rw [pure_bind]
    exact succeeds ⟨block, content⟩ same rfl

theorem owns_parse
    {text : Option Text} {later : Option (Ptr Json) → Program Result}
    (null : (Plenty allocates → text.bind cJSON.parse = none) →
      Owns allowed held (later none) post)
    (parsed : ∀ pointer : Ptr Json, pointer.block.kind = .tree →
      text.bind cJSON.parse = some pointer.content →
        Owns allowed ({pointer.block} + held) (later (some pointer)) post) :
    Owns allowed held (parse cJSON allocates text >>= later) post := by
  unfold parse
  cases found : text.bind cJSON.parse with
  | none => exact null fun _ => found
  | some tree =>
      refine owns_new (fun scarce => null fun plenty => absurd plenty scarce) ?_
      rintro pointer kind rfl
      exact parsed pointer kind found

theorem owns_print
    {tree : Json} {later : Option (Ptr Text) → Program Result}
    (null : ¬Plenty allocates → Owns allowed held (later none) post)
    (printed : ∀ pointer : Ptr Text, pointer.block.kind = .text →
      pointer.content = cJSON.print tree →
        Owns allowed ({pointer.block} + held) (later (some pointer)) post) :
    Owns allowed held (print cJSON allocates tree >>= later) post :=
  owns_new null printed

theorem owns_deref
    {pointer : Option (Ptr Content)} {later : Content → Program Result}
    (null : pointer = none → allowed .reads)
    (found : ∀ target, pointer = some target → Owns allowed held (later target.content) post) :
    Owns allowed held (deref pointer >>= later) post := by
  cases pointer with
  | none =>
      have stops : Owns allowed held (stray .reads : Program Content) fun _ _ => False :=
        .stray (null rfl)
      exact stops.bind fun _ _ => False.elim
  | some target => exact found target rfl

/-! ## Looking a value up -/

/-- The texts printed of a value for its length and for its copy. -/
def printedTexts : Option Json → Nat
  | some (.object _) => 2
  | _ => 0

/-- A lookup yields a new text, which is the value's, or nothing; the texts that were
printed are lost. -/
def Found (allocates : Nat → Bool) (plain : Except Int Text) (texts : Nat) :
    Except Int (Ptr Text) → Multiset (Block Kind) → Prop
  | .ok buffer, left =>
      buffer.block.kind = .text ∧ plain = .ok buffer.content ∧
        ∃ lost, left = {buffer.block} + lost ∧ Lost texts 0 lost
  | .error code, left =>
      ∃ some ≤ texts, Lost some 0 left ∧ (Plenty allocates → some = 0 ∧ plain = .error code)

theorem owns_copy (value : Text) {plain : Except Int Text} (is : plain = .ok value) :
    Owns (Scarce allocates) 0
      (do let buffer ← new allocates .text value; pure (buffer.elim (.error 1) .ok))
      (Found allocates plain 0) := by
  refine owns_new (fun scarce => .pure ?_) fun pointer kind content => .pure ?_
  · exact ⟨0, le_rfl, lost_zero, fun plenty => absurd plenty scarce⟩
  · exact ⟨kind, content ▸ is, 0, rfl, lost_zero⟩

theorem owns_getValueOfKeyFromJsonObject (cjsonObject : Json) (key : Text) :
    Owns (Scarce allocates) 0 (getValueOfKeyFromJsonObject cJSON allocates cjsonObject key)
      (Found allocates (Refuge.getValueOfKeyFromJsonObject cJSON cjsonObject key)
        (printedTexts (cjsonObject.getObjectItemCaseSensitive key))) := by
  unfold getValueOfKeyFromJsonObject Refuge.getValueOfKeyFromJsonObject
  cases cjsonObject.getObjectItemCaseSensitive key with
  | none => exact .pure ⟨0, le_rfl, lost_zero, fun _ => ⟨rfl, rfl⟩⟩
  | some item =>
      cases item with
      | string valuestring => exact owns_copy valuestring rfl
      | number valuedouble => exact owns_copy (sprintfF valuedouble) rfl
      | object members =>
          dsimp only
          refine owns_print (fun scarce => owns_deref (fun _ => ⟨rfl, scarce⟩) (by simp)) ?_
          intro first firstKind _
          refine owns_deref (by simp) fun _ _ => ?_
          refine Owns.alloc allocates Kind.text (fun number failed => .pure ?_)
            fun block kind _ => ?_
          · refine ⟨1, by simp [printedTexts], by simpa using lost_text firstKind, fun plenty => ?_⟩
            simp [plenty number] at failed
          · refine owns_print (fun scarce => owns_deref (fun _ => ⟨rfl, scarce⟩) (by simp)) ?_
            intro second secondKind printed
            refine owns_deref (by simp) fun target same => .pure ?_
            obtain rfl := Option.some.inj same
            refine ⟨kind, by rw [printed]; rfl, {second.block} + {first.block}, by abel, ?_⟩
            exact (lost_text secondKind).add (lost_text firstKind)
      | _ => exact .pure ⟨0, le_rfl, lost_zero, fun _ => ⟨rfl, rfl⟩⟩

/-- The texts printed of a value of a text. -/
def lookupTexts (cJSON : CJson) (cjsonBuffer key : Text) : Nat :=
  printedTexts (memberOf cJSON cjsonBuffer key)

theorem owns_getValueOfKeyFromJsonString (cjsonBuffer key : Text) :
    Owns (Scarce allocates) 0 (getValueOfKeyFromJsonString cJSON allocates cjsonBuffer key)
      (Found allocates (Refuge.getValueOfKeyFromJsonString cJSON cjsonBuffer key)
        (lookupTexts cJSON cjsonBuffer key)) := by
  refine owns_parse (fun null => .pure ?_) fun pointer _ parsed => ?_
  · refine ⟨0, Nat.zero_le _, lost_zero, fun plenty => ⟨rfl, ?_⟩⟩
    have unparsed : cJSON.parse cjsonBuffer = none := null plenty
    simp [Refuge.getValueOfKeyFromJsonString, unparsed]
  · have tree : cJSON.parse cjsonBuffer = some pointer.content := parsed
    refine .call (owns_getValueOfKeyFromJsonObject pointer.content key) ?_
    intro result left found
    refine .free left (by abel) (.pure ?_)
    simp only [lookupTexts, memberOf, tree, Option.bind_some, Refuge.getValueOfKeyFromJsonString]
    cases result with
    | error code =>
        obtain ⟨some, few, lost, plain⟩ := found
        refine ⟨some, few, lost, fun plenty => ?_⟩
        obtain ⟨none, is⟩ := plain plenty
        exact ⟨none, by rw [is]⟩
    | ok buffer =>
        obtain ⟨kind, is, lost⟩ := found
        exact ⟨kind, by rw [is], lost⟩

/-! ## Adding a value -/

/-- What a rewriting function leaves: trees that could not be added. -/
def Rewritten {Value : Type} (allocates : Nat → Bool) (trees : Nat) (plain result : Value)
    (left : Multiset (Block Kind)) : Prop :=
  ∃ some ≤ trees, Lost 0 some left ∧ (Plenty allocates → some = 0 ∧ result = plain)

theorem owns_addItemToObject
    (object : Json) (key : Text) {item : Ptr Json} (kind : item.block.kind = .tree) :
    Owns (Scarce allocates) {item.block} (addItemToObject allocates object key item)
      (Rewritten allocates 1 (object.addItemToObject key item.content)) := by
  refine owns_new (fun scarce => .pure ?_) fun name _ _ => ?_
  · exact ⟨1, le_rfl, lost_tree kind, fun plenty => absurd plenty scarce⟩
  · refine .absorb _ rfl (.absorb 0 (by simp) (.pure ?_))
    exact ⟨0, zero_le_one, lost_zero, fun _ => ⟨rfl, rfl⟩⟩

theorem owns_jsonObjectToJsonString (cjsonObject : Json) (buffer : Option Text) :
    Owns (Scarce allocates) 0 (jsonObjectToJsonString cJSON allocates cjsonObject buffer)
      (Rewritten allocates 0 (buffer.elim (.error 1) fun _ => .ok (cJSON.print cjsonObject))) := by
  cases buffer with
  | none => exact .pure ⟨0, le_rfl, lost_zero, fun _ => ⟨rfl, rfl⟩⟩
  | some buffer =>
      refine owns_print (fun scarce => .pure ?_) fun pointer _ printed => ?_
      · exact ⟨0, le_rfl, lost_zero, fun plenty => absurd plenty scarce⟩
      · refine .free 0 (by simp) (.pure ⟨0, le_rfl, lost_zero, fun _ => ⟨rfl, ?_⟩⟩)
        rw [printed]
        rfl

theorem owns_encodeValue
    {buffer : Text} {flags : Nat} {later : Option (Ptr Json) → Program Result}
    (null : (Plenty allocates → Refuge.encodeValue cJSON buffer flags = none) →
      Owns allowed held (later none) post)
    (encoded : ∀ value : Ptr Json, value.block.kind = .tree →
      Refuge.encodeValue cJSON buffer flags = some value.content →
        Owns allowed ({value.block} + held) (later (some value)) post) :
    Owns allowed held (encodeValue cJSON allocates buffer flags >>= later) post := by
  unfold encodeValue
  unfold Refuge.encodeValue at null encoded
  split_ifs at null encoded ⊢ with number object
  · refine owns_new (fun scarce => null fun plenty => absurd plenty scarce) ?_
    exact fun value kind same => encoded value kind (congrArg some same.symm)
  · exact owns_parse null encoded
  · refine owns_new (fun scarce => null fun plenty => absurd plenty scarce) ?_
    exact fun value kind same => encoded value kind (congrArg some same.symm)

theorem owns_parseOrCreate
    {cjsonBuffer : Option Text} {later : Option (Ptr Json) → Program Result}
    (null : ¬Plenty allocates → Owns allowed held (later none) post)
    (made : ∀ cjsonObject : Ptr Json, cjsonObject.block.kind = .tree →
      (Plenty allocates →
        cjsonObject.content = (cjsonBuffer.bind cJSON.parse).getD (.object [])) →
        Owns allowed ({cjsonObject.block} + held) (later (some cjsonObject)) post) :
    Owns allowed held (parseOrCreate cJSON allocates cjsonBuffer >>= later) post := by
  unfold parseOrCreate
  rw [bind_assoc]
  refine owns_parse (fun unparsed => owns_new null ?_) fun pointer kind parsed => ?_
  · rintro pointer kind same
    exact made pointer kind fun plenty => by rw [unparsed plenty, same]; rfl
  · exact made pointer kind fun _ => by rw [parsed]; rfl

theorem owns_addAndPrint
    (cjsonObject : Ptr Json) (key : Text) {value : Ptr Json} (kind : value.block.kind = .tree)
    (cjsonBuffer : Option Text) :
    Owns (Scarce allocates) ({value.block} + {cjsonObject.block})
      (addAndPrint cJSON allocates cjsonObject key value cjsonBuffer)
      (Rewritten allocates 1 (cjsonBuffer.elim (.error 1) fun _ =>
        .ok (cJSON.print (cjsonObject.content.addItemToObject key value.content)))) := by
  refine .give rfl (owns_addItemToObject _ key kind) ?_
  rintro object left ⟨trees, few, lost, added⟩
  refine .call (owns_jsonObjectToJsonString object cjsonBuffer) ?_
  rintro result more ⟨none, nothing, also, printed⟩
  obtain rfl := Nat.le_zero.mp nothing
  refine .free (more + left) (by abel) (.pure ⟨trees, few, ?_, fun plenty => ?_⟩)
  · simpa using also.add lost
  · obtain ⟨kept, rfl⟩ := added plenty
    exact ⟨kept, (printed plenty).2⟩

/-- `cjson_add_key_value_to_json_string` frees all it makes, except a value that it
has no memory to add. -/
theorem owns_cjsonAddKeyValueToJsonString
    (cjsonBuffer : Option Text) (key buffer : Text) (flags : Nat) :
    Owns (Scarce allocates) 0
      (cjsonAddKeyValueToJsonString cJSON allocates cjsonBuffer key buffer flags)
      (Rewritten allocates 1 (cjsonBuffer.elim (.error 1) fun cjsonBuffer =>
        Refuge.cjsonAddKeyValueToJsonString cJSON cjsonBuffer key buffer flags)) := by
  refine owns_parseOrCreate (fun scarce => .pure ?_) fun cjsonObject _ made => ?_
  · exact ⟨0, zero_le_one, lost_zero, fun plenty => absurd plenty scarce⟩
  refine owns_encodeValue (fun null => ?_) fun value kind encoded => ?_
  · refine .free 0 (by simp) (.pure ⟨0, zero_le_one, lost_zero, fun plenty => ?_⟩)
    cases cjsonBuffer <;> simp [Refuge.cjsonAddKeyValueToJsonString, null plenty]
  have plain (plenty : Plenty allocates) :
      (cjsonBuffer.elim (.error 1) fun cjsonBuffer =>
        Refuge.cjsonAddKeyValueToJsonString cJSON cjsonBuffer key buffer flags) =
      cjsonBuffer.elim (.error 1) fun cjsonBuffer =>
        if isKeyInJsonObject cjsonObject.content key then
          if flags &&& OVERRIDE ≠ 0 then
            .ok (cJSON.print
              ((cjsonObject.content.deleteItemFromObject key).addItemToObject key value.content))
          else .ok cjsonBuffer
        else .ok (cJSON.print (cjsonObject.content.addItemToObject key value.content)) := by
    cases cjsonBuffer with
    | none => rfl
    | some text =>
        have content := made plenty
        simp only [Option.bind_some] at content
        simp only [Option.elim_some, Refuge.cjsonAddKeyValueToJsonString, ← content, encoded]
  rw [add_zero]
  dsimp only
  split_ifs at plain ⊢ with present override
  · refine (owns_addAndPrint ⟨_, cjsonObject.content.deleteItemFromObject key⟩ key kind
      cjsonBuffer).mono ?_
    rintro result left ⟨trees, few, lost, added⟩
    exact ⟨trees, few, lost, fun plenty =>
      ⟨(added plenty).1, (added plenty).2.trans (plain plenty).symm⟩⟩
  · refine .free _ (add_comm _ _) (.free 0 (by simp) (.pure ?_))
    refine ⟨0, zero_le_one, lost_zero, fun plenty => ⟨rfl, ?_⟩⟩
    rw [plain plenty]
    cases cjsonBuffer with
    | none =>
        rw [made plenty] at present
        cases present
    | some text => rfl
  · refine (owns_addAndPrint cjsonObject key kind cjsonBuffer).mono ?_
    rintro result left ⟨trees, few, lost, added⟩
    exact ⟨trees, few, lost, fun plenty =>
      ⟨(added plenty).1, (added plenty).2.trans (plain plenty).symm⟩⟩

/-! ## Files -/

theorem owns_fopen
    {fails : Bool} {later : Option (Block Kind) → Program Result}
    (failed : fails = true → Owns allowed held (later none) post)
    (opened : fails = false → ∀ stream : Block Kind,
      Owns allowed ({stream} + held) (later (some stream)) post) :
    Owns allowed held (fopen fails >>= later) post :=
  Owns.alloc _ Kind.file (fun _ refused => failed (by simpa using refused))
    fun stream _ granted => opened (by simpa using granted) stream

/-- `read_file` closes the file, and keeps the text if it has read it. -/
theorem owns_readFile (faults : FileFaults) (file : Text) :
    Owns (Scarce allocates) 0 (readFile allocates faults file)
      (Found allocates (Refuge.readFile faults file) 0) := by
  have nothing {plain : Except Int Text} (is : Plenty allocates → plain = .error 1) :
      Found allocates plain 0 (.error 1) 0 := ⟨0, le_rfl, lost_zero, fun plenty => ⟨rfl, is plenty⟩⟩
  refine owns_fopen (fun failed => .pure ?_) fun opened stream => ?_
  · exact nothing fun _ => by simp [Refuge.readFile, failed]
  dsimp only
  split_ifs with early short
  · refine .free 0 rfl (.pure (nothing fun _ => ?_))
    rw [readFile_eq, if_pos]
    simp only [FileFaults.reading, Bool.or_eq_true, ← List.length_eq_zero_iff]
    tauto
  · refine owns_new (fun scarce => ?_) fun string _ _ => ?_
    · exact .free 0 rfl (.pure (nothing fun plenty => absurd plenty scarce))
    · refine .free {string.block} (by abel) (.free 0 rfl (.pure ?_))
      exact nothing fun _ => by simp [readFile_eq, FileFaults.reading, short]
  · refine owns_new (fun scarce => ?_) fun string kind content => ?_
    · exact .free 0 rfl (.pure (nothing fun plenty => absurd plenty scarce))
    · refine .free {string.block} (by abel) (.pure ⟨kind, ?_, 0, rfl, lost_zero⟩)
      rw [readFile_eq, content, if_neg]
      simp only [FileFaults.reading, Bool.or_eq_true, ← List.length_eq_zero_iff]
      simp only [Bool.not_eq_true] at opened short
      simp only [opened, short]
      tauto

/-- `write_file` closes the file. -/
theorem owns_writeFile (faults : FileFaults) (file buffer : Text) :
    Owns allowed 0 (writeFile faults file buffer) fun result left =>
      left = 0 ∧ result = Refuge.writeFile faults file buffer := by
  unfold writeFile Refuge.writeFile
  split_ifs with empty failed
  · exact .pure ⟨rfl, rfl⟩
  · refine owns_fopen (fun _ => .pure ⟨rfl, rfl⟩) fun opened _ => ?_
    simp [failed] at opened
  · refine owns_fopen (fun fails => absurd fails failed) fun _ stream => ?_
    refine .free 0 rfl (.pure ⟨rfl, ?_⟩)
    dsimp only
    split_ifs <;> rfl

/-- `generate_log` appends one line and closes the file. -/
theorem owns_generateLog (openFails : Bool) (log timestamp message : Text) :
    Owns allowed 0 (generateLog openFails log timestamp message) fun result left =>
      left = 0 ∧ result =
        if openFails then (1, log)
        else (0, log ++ timestamp ++ ", ".toList ++ message ++ "\n".toList) := by
  refine owns_fopen (fun failed => .pure ⟨rfl, by simp [failed]⟩) fun opened stream => ?_
  exact .free 0 rfl (.pure ⟨rfl, by simp [opened]⟩)

/-! ## What the client calls on a reply -/

/-- `is_key_in_json_buffer` holds nothing when it returns. -/
theorem owns_isKeyInJsonBuffer (cjsonBuffer key : Text) :
    Owns allowed 0 (isKeyInJsonBuffer cJSON allocates cjsonBuffer key) fun result left =>
      left = 0 ∧ (Plenty allocates → result = Refuge.isKeyInJsonBuffer cJSON cjsonBuffer key) := by
  refine owns_parse (fun null => .pure ⟨rfl, fun plenty => ?_⟩) fun pointer _ parsed => ?_
  · have unparsed : cJSON.parse cjsonBuffer = none := null plenty
    simp [Refuge.isKeyInJsonBuffer, unparsed]
  · have tree : cJSON.parse cjsonBuffer = some pointer.content := parsed
    exact .free 0 rfl (.pure ⟨rfl, fun _ => by simp [Refuge.isKeyInJsonBuffer, tree]⟩)

/-- `print_cjson` holds nothing when it returns. -/
theorem owns_printCjson (cjsonBuffer : Text) :
    Owns (Scarce allocates) 0 (printCjson cJSON allocates cjsonBuffer) fun _ left => left = 0 := by
  refine owns_parse (fun _ => .pure rfl) fun pointer _ _ => ?_
  refine owns_print (fun scarce => ?_) fun string _ _ => ?_
  · exact .free 0 rfl (.stray ⟨rfl, scarce⟩)
  · exact .free {pointer.block} (by simp) (.last_free _)

end

end Memory
end Refuge
