import Refuge.Dialogue

/-!
# Whether the client's requests fit

Each of the four texts that the user types is printed into a request of one
buffer: the username and the password are cut to 48 bytes, the key is not cut at
all, and an amount has up to ten digits.  A control character is printed as six.
-/

namespace Refuge

open Foundation

/-- What a prompt of `get_credentials` makes of standard input. -/
def typedLine (size : Nat) (stdin : Text) : Text :=
  (cString ((fgets size stdin).1.getD [])).dropLast

/-- There is a line, and it does not start with a zero byte. -/
def HasLine (stdin : Text) : Prop :=
  ∃ byte ∈ stdin.head?, byte ≠ NUL

section

variable (width : Char → Nat) (takesSign : Bool) (leftover : Text)

/-- The key is one that fits its array, the amount has at most nine digits, and the texts
of the order have room together.  At the end of the input there is no key, and
what is in its memory has to have room. -/
def OrderRoom (username password : Text) (supplyType : SupplyType) (stdin : Text) : Prop :=
  match scanfS stdin with
  | (none, _) => supplyType.equivalent.length + printedWidth width leftover ≤ 900
  | (some word, afterKey) =>
      word.length < MAX_K_V_SUP_LENGHT ∧
        ∀ value rest, amountPrompt.FirstAnswer takesSign afterKey value rest →
          value < 10 ^ 9 ∧
            supplyType.equivalent.length + printedWidth width (cString word) +
                (sprintfD value).length + printedWidth width username +
              printedWidth width password ≤ 852

/-- If standard input starts with an order, that has room. -/
def OrderFits (username password stdin : Text) : Prop :=
  ∀ afterOption category afterCategory,
    optionPrompt.FirstAnswer takesSign stdin 2 afterOption →
      categoryPrompt.FirstAnswer takesSign afterOption category afterCategory →
        OrderRoom width takesSign leftover username password (supplyTypeOf category) afterCategory

/-- What may be left of standard input after some requests. -/
inductive Requested (stdin : Text) : Text → Prop
  | none : Requested stdin stdin
  | status {left rest : Text} (before : Requested stdin left)
      (option : optionPrompt.FirstAnswer takesSign left 1 rest) : Requested stdin rest
  | order {left afterOption afterCategory rest : Text} {category value : Int}
      (before : Requested stdin left)
      (option : optionPrompt.FirstAnswer takesSign left 2 afterOption)
      (supplyType : categoryPrompt.FirstAnswer takesSign afterOption category afterCategory)
      (amount : amountPrompt.FirstAnswer takesSign (scanfS afterCategory).2 value rest) :
      Requested stdin rest

/-- Both credentials are there and every order fits. -/
structure FitsArrays (stdin : Text) : Prop where
  username : HasLine stdin
  password : HasLine (fgets MAX_USERNAME_LENGTH stdin).2
  orders : ∀ left,
    Requested takesSign
        (fgets MAX_PASSWORD_LENGTH (fgets MAX_USERNAME_LENGTH stdin).2).2 left →
      OrderFits width takesSign leftover (typedLine MAX_USERNAME_LENGTH stdin)
        (typedLine MAX_PASSWORD_LENGTH (fgets MAX_USERNAME_LENGTH stdin).2) left

end

theorem Requested.trans
    {takesSign : Bool} {start left rest : Text} (first : Requested takesSign start left)
    (second : Requested takesSign left rest) : Requested takesSign start rest := by
  induction second with
  | none => exact first
  | status _ option inductionHypothesis => exact .status inductionHypothesis option
  | order _ option supplyType amount inductionHypothesis =>
      exact .order inductionHypothesis option supplyType amount

/-- An amount that fits has at most nine digits. -/
theorem length_sprintfD_lt_ten_iff {value : Int} (positive : 0 < value) :
    (sprintfD value).length < 10 ↔ value < 10 ^ 9 := by
  rw [sprintfD, if_neg (by omega), decimal, Nat.lt_succ_iff,
    Nat.length_toDigits_le_iff (by decide) (by decide)]
  omega

theorem positive_of_firstAnswer
    {takesSign : Bool} {stdin rest : Text} {value : Int}
    (amount : amountPrompt.FirstAnswer takesSign stdin value rest) : 0 < value := by
  obtain ⟨_, _, _, accepted⟩ := amount
  simpa [amountPrompt] using accepted

namespace Buffered

section

variable {cJSON : CJson} {width : Char → Nat} {takesSign : Bool}
  {leftover username password stdin : Text}

/-- An order stops at the first part without room. -/
theorem orderSteps_eq_of_key
    {supplyType : SupplyType} {rounds : Nat} {key : Text}
    (read : readKey leftover (scanfS stdin).1 = .ok key)
    (room : (cJSON.print (textObject (keyFields supplyType key))).length < BUFFER_SIZE) :
    orderSteps cJSON takesSign leftover username password supplyType rounds stdin =
      (ask takesSign amountPrompt rounds (scanfS stdin).2 >>= fun answer => do
        let _ : TextBuffer ← Buffer.alloc 10 (sprintfD answer.1)
        let buffer ← Buffer.alloc BUFFER_SIZE
          (cJSON.print (textObject
            (keyFields supplyType key ++ amountFields answer.1 username password)))
        return (answer.2, buffer)) := by
  rw [orderSteps, read, ok_bind, Buffer.alloc_of_lt room, ok_bind]

/-- The key of an order that has room is read, and has room in the request. -/
theorem OrderRoom.key
    (formatted : cJSON.Formatted) (escapes : cJSON.Escapes width) {supplyType : SupplyType}
    (room : OrderRoom width takesSign leftover username password supplyType stdin) :
    ∃ key, readKey leftover (scanfS stdin).1 = .ok key ∧
      (cJSON.print (textObject (keyFields supplyType key))).length < BUFFER_SIZE ∧
        ∀ value rest, amountPrompt.FirstAnswer takesSign (scanfS stdin).2 value rest →
          (sprintfD value).length < 10 ∧
            (cJSON.print (textObject
              (keyFields supplyType key ++ amountFields value username password))).length <
                BUFFER_SIZE := by
  have size : BUFFER_SIZE = 1024 := rfl
  have category := supplyType.length_equivalent_le
  unfold OrderRoom at room
  split at room
  · rename_i rest read
    rw [read]
    refine ⟨leftover, rfl, ?_, fun value left answer =>
      absurd (eq_nil_of_scanfS read ▸ answer) Prompt.not_firstAnswer_nil⟩
    rw [length_print_keyFields formatted escapes]
    omega
  · rename_i word afterKey read
    obtain ⟨short, amounts⟩ := room
    have keyLength : (cString word).length ≤ word.length :=
      (List.takeWhile_sublist _).length_le
    have keyWidth := escapes.sum_width_le (cString word)
    rw [← printedWidth] at keyWidth
    have wordSize : MAX_K_V_SUP_LENGHT = 50 := rfl
    rw [read]
    refine ⟨cString word, readKey_of_lt short, ?_, fun value left answer => ?_⟩
    · rw [length_print_keyFields formatted escapes]
      omega
    · obtain ⟨small, together⟩ := amounts value left answer
      refine ⟨(length_sprintfD_lt_ten_iff (positive_of_firstAnswer answer)).mpr small, ?_⟩
      rw [length_print_keyFields_append formatted escapes]
      omega

/-- An order with room is still being asked for or complete. -/
theorem orderSteps_cases
    (formatted : cJSON.Formatted) (escapes : cJSON.Escapes width)
    {supplyType : SupplyType}
    (room : OrderRoom width takesSign leftover username password supplyType stdin)
    (rounds : Nat) :
    orderSteps cJSON takesSign leftover username password supplyType rounds stdin =
        .error (.returns .asking) ∨
      ∃ value rest buffer, amountPrompt.FirstAnswer takesSign (scanfS stdin).2 value rest ∧
        orderSteps cJSON takesSign leftover username password supplyType rounds stdin =
          .ok (rest, buffer) := by
  obtain ⟨key, read, keyRoom, amounts⟩ := OrderRoom.key formatted escapes room
  rw [orderSteps_eq_of_key read keyRoom]
  rcases ask_cases takesSign amountPrompt rounds (scanfS stdin).2 with
    asking | ⟨value, rest, answer, asked⟩
  · rw [asking]
    exact .inl rfl
  · obtain ⟨digits, together⟩ := amounts value rest answer
    rw [asked, ok_bind, Buffer.alloc_of_lt digits, ok_bind, Buffer.alloc_of_lt together]
    exact .inr ⟨value, rest, _, answer, rfl⟩

/-- With credentials that are short enough and an order that fits, a turn stops in good
order or completes a request. -/
theorem request_cases
    (lawful : cJSON.Lawful) (formatted : cJSON.Formatted) (escapes : cJSON.Escapes width)
    (credentials : printedWidth width username + printedWidth width password ≤ 576)
    (fits : OrderFits width takesSign leftover username password stdin) (turn : ClientTurn) :
    (∃ pause, request cJSON takesSign leftover username password turn stdin =
        .error (.returns pause)) ∨
      ∃ rest buffer, Requested takesSign stdin rest ∧
        request cJSON takesSign leftover username password turn stdin = .ok (rest, buffer) := by
  have size : BUFFER_SIZE = 1024 := rfl
  cases asks : turn.skipOption with
  | false =>
      obtain ⟨buffer, made⟩ := request_poll lawful formatted escapes asks
      exact .inr ⟨stdin, buffer, .none, made⟩
  | true =>
      rcases ask_cases takesSign optionPrompt turn.option stdin with
        asking | ⟨option, afterOption, answer, asked⟩
      · refine .inl ⟨.asking, ?_⟩
        rw [request, if_pos asks, getOptions, asking]
        rfl
      · rcases option_of_firstAnswer answer with rfl | rfl | rfl
        · have short : (cJSON.print (textObject (statusFields username password))).length <
              BUFFER_SIZE := by
            rw [length_print_statusFields formatted escapes]
            omega
          rw [request_status lawful formatted asks asked, Buffer.alloc_of_lt short]
          exact .inr ⟨afterOption, _, .status .none answer, rfl⟩
        · rcases ask_cases takesSign categoryPrompt turn.category afterOption with
            asking | ⟨category, afterCategory, supplyType, chosen⟩
          · exact .inl ⟨.asking, request_asking lawful formatted escapes asks asked asking⟩
          · rw [request_order lawful formatted escapes asks asked chosen]
            rcases orderSteps_cases formatted escapes
                (fits _ _ _ answer supplyType) turn.amount with
              asking | ⟨value, rest, buffer, amount, complete⟩
            · exact .inl ⟨.asking, asking⟩
            · exact .inr ⟨rest, buffer, .order .none answer supplyType amount, complete⟩
        · refine .inl ⟨.ended, ?_⟩
          rw [request, if_pos asks, getOptions, asked]
          rfl

/-- With answers to all its prompts an order is made, unless something has no room. -/
theorem exists_orderSteps
    {supplyType : SupplyType} {value : Int} {rest : Text}
    (answer : amountPrompt.FirstAnswer takesSign (scanfS stdin).2 value rest) :
    ∃ rounds, Agrees Prod.fst
      (orderSteps cJSON takesSign leftover username password supplyType rounds stdin)
      (.ok rest) := by
  obtain ⟨rounds, asked⟩ := exists_ask answer
  refine ⟨rounds, ?_⟩
  rw [orderSteps, asked]
  refine (agrees_readKey leftover (scanfS stdin).1).ok_bind fun key _ => ?_
  refine (agrees_alloc _ _).ok_bind fun _ _ => ?_
  rw [ok_bind]
  refine (agrees_alloc _ _).ok_bind fun _ _ => ?_
  exact (agrees_alloc _ _).ok_bind fun _ _ => rfl

/-- An amount that has no room itself or in its request leaves an array. -/
theorem orderSteps_overflows_of_amount
    {supplyType : SupplyType} {key rest : Text} {value : Int}
    (read : readKey leftover (scanfS stdin).1 = .ok key)
    (answer : amountPrompt.FirstAnswer takesSign (scanfS stdin).2 value rest)
    (noRoom : (sprintfD value).length < 10 →
      ¬(cJSON.print (textObject
        (keyFields supplyType key ++ amountFields value username password))).length <
          BUFFER_SIZE) :
    ∃ rounds,
      orderSteps cJSON takesSign leftover username password supplyType rounds stdin =
        .error .overflows := by
  obtain ⟨rounds, asked⟩ := exists_ask answer
  refine ⟨rounds, ?_⟩
  rw [orderSteps, read, ok_bind]
  rcases (@agrees_alloc Pause Char BUFFER_SIZE
      (cJSON.print (textObject (keyFields supplyType key)))).ok_cases with
    stops | ⟨buffer, made, _⟩
  · rw [stops]
    rfl
  rw [made, ok_bind, asked, ok_bind]
  by_cases digits : (sprintfD value).length < 10
  · rw [Buffer.alloc_of_lt digits, ok_bind, Buffer.alloc_of_not_lt (noRoom digits)]
    rfl
  · rw [Buffer.alloc_of_not_lt digits]
    rfl

/-- An order without room leaves an array. -/
theorem orderSteps_overflows
    (formatted : cJSON.Formatted) (escapes : cJSON.Escapes width) {supplyType : SupplyType}
    (noRoom : ¬OrderRoom width takesSign leftover username password supplyType stdin) :
    ∃ rounds,
      orderSteps cJSON takesSign leftover username password supplyType rounds stdin =
        .error .overflows := by
  have size : BUFFER_SIZE = 1024 := rfl
  unfold OrderRoom at noRoom
  split at noRoom
  · rename_i rest read
    have long : ¬(cJSON.print (textObject (keyFields supplyType leftover))).length <
        BUFFER_SIZE := by
      rw [length_print_keyFields formatted escapes]
      omega
    refine ⟨0, ?_⟩
    rw [orderSteps, read, readKey, ok_bind, Buffer.alloc_of_not_lt long]
    rfl
  · rename_i word afterKey read
    by_cases short : word.length < MAX_K_V_SUP_LENGHT
    · have readsKey : readKey leftover (scanfS stdin).1 = .ok (cString word) := by
        rw [read, readKey_of_lt short]
      simp only [short, true_and, not_forall] at noRoom
      obtain ⟨value, rest, answer, exceeds⟩ := noRoom
      have behind : (scanfS stdin).2 = afterKey := by rw [read]
      rw [← behind] at answer
      refine orderSteps_overflows_of_amount readsKey answer fun digits => ?_
      have small := (length_sprintfD_lt_ten_iff (positive_of_firstAnswer answer)).mp digits
      rw [length_print_keyFields_append formatted escapes]
      omega
    · refine ⟨0, ?_⟩
      rw [orderSteps, read, readKey, Buffer.alloc_of_not_lt short]
      rfl

/-- A turn whose prompt is answered makes its request, unless that has no room. -/
theorem exists_request_status
    (lawful : cJSON.Lawful) (formatted : cJSON.Formatted) {rest : Text}
    (option : optionPrompt.FirstAnswer takesSign stdin 1 rest) :
    ∃ turn, Agrees Prod.fst
      (request cJSON takesSign leftover username password turn stdin) (.ok rest) := by
  obtain ⟨rounds, asked⟩ := exists_ask option
  let turn : ClientTurn := { skipOption := true, option := rounds, category := 0, amount := 0 }
  refine ⟨turn, ?_⟩
  rw [@request_status cJSON takesSign leftover username password turn stdin lawful formatted rfl
    rest asked]
  exact (agrees_alloc _ _).ok_bind fun _ _ => rfl

theorem exists_request_order
    (lawful : cJSON.Lawful) (formatted : cJSON.Formatted) (escapes : cJSON.Escapes width)
    {afterOption afterCategory : Text} {category : Int}
    (option : optionPrompt.FirstAnswer takesSign stdin 2 afterOption)
    (supplyType : categoryPrompt.FirstAnswer takesSign afterOption category afterCategory)
    (rounds : Nat) :
    ∃ turn, request cJSON takesSign leftover username password turn stdin =
      orderSteps cJSON takesSign leftover username password (supplyTypeOf category) rounds
        afterCategory := by
  obtain ⟨optionRounds, asked⟩ := exists_ask option
  obtain ⟨categoryRounds, chosen⟩ := exists_ask supplyType
  let turn : ClientTurn :=
    { skipOption := true, option := optionRounds, category := categoryRounds, amount := rounds }
  exact ⟨turn, @request_order cJSON width takesSign leftover username password turn stdin lawful
    formatted escapes rfl afterOption afterCategory category asked chosen⟩

/-- An order that does not fit leaves an array. -/
theorem request_overflows
    (lawful : cJSON.Lawful) (formatted : cJSON.Formatted) (escapes : cJSON.Escapes width)
    (exceeds : ¬OrderFits width takesSign leftover username password stdin) :
    ∃ turn, request cJSON takesSign leftover username password turn stdin =
      .error .overflows := by
  simp only [OrderFits, not_forall] at exceeds
  obtain ⟨afterOption, category, afterCategory, option, supplyType, noRoom⟩ := exceeds
  obtain ⟨rounds, stops⟩ := orderSteps_overflows formatted escapes noRoom
  obtain ⟨turn, made⟩ := exists_request_order lawful formatted escapes option supplyType rounds
  exact ⟨turn, made.trans stops⟩

/-! ## Runs -/

theorem requests_append (turns more : List ClientTurn) (stdin : Text) :
    requests cJSON takesSign leftover username password (turns ++ more) stdin =
      (requests cJSON takesSign leftover username password turns stdin >>=
        requests cJSON takesSign leftover username password more) := by
  induction turns generalizing stdin with
  | nil => rfl
  | cons turn turns inductionHypothesis =>
      simp only [List.cons_append, requests, inductionHypothesis, bind_assoc]

/-- A turn on what is left goes behind the turns that lead there. -/
theorem agrees_requests_concat
    {turns : List ClientTurn} {turn : ClientTurn} {left rest : Text}
    (before : Agrees id
      (requests cJSON takesSign leftover username password turns stdin) (.ok left))
    (made : Agrees Prod.fst
      (request cJSON takesSign leftover username password turn left) (.ok rest)) :
    Agrees id
      (requests cJSON takesSign leftover username password (turns ++ [turn]) stdin)
      (.ok rest) := by
  rw [requests_append]
  refine before.ok_bind fun start reached => ?_
  obtain rfl : start = left := reached
  refine made.ok_bind fun answer reached => ?_
  obtain rfl := reached
  rfl

/-- What may be left after some requests is left after some turns, unless something has
no room before. -/
theorem exists_requests
    (lawful : cJSON.Lawful) (formatted : cJSON.Formatted) (escapes : cJSON.Escapes width)
    {left : Text} (requested : Requested takesSign stdin left) :
    ∃ turns, Agrees id
      (requests cJSON takesSign leftover username password turns stdin) (.ok left) := by
  induction requested with
  | none => exact ⟨[], rfl⟩
  | status _ option inductionHypothesis =>
      obtain ⟨turns, before⟩ := inductionHypothesis
      obtain ⟨turn, made⟩ := exists_request_status lawful formatted option
      exact ⟨turns ++ [turn], agrees_requests_concat before made⟩
  | order _ option supplyType amount inductionHypothesis =>
      obtain ⟨turns, before⟩ := inductionHypothesis
      obtain ⟨rounds, made⟩ := exists_orderSteps amount
      obtain ⟨turn, same⟩ := exists_request_order lawful formatted escapes option supplyType rounds
      rw [← same] at made
      exact ⟨turns ++ [turn], agrees_requests_concat before made⟩

/-- Requests stay in their arrays if and only if every order that is come to fits. -/
theorem requests_fit_iff_orders_fit
    (lawful : cJSON.Lawful) (formatted : cJSON.Formatted) (escapes : cJSON.Escapes width)
    (credentials : printedWidth width username + printedWidth width password ≤ 576) :
    (∀ turns, requests cJSON takesSign leftover username password turns stdin ≠
        .error .overflows) ↔
      ∀ left, Requested takesSign stdin left →
        OrderFits width takesSign leftover username password left := by
  constructor
  · intro fits left requested
    by_contra exceeds
    obtain ⟨turns, agrees⟩ := exists_requests lawful formatted escapes requested
    obtain ⟨turn, stops⟩ := request_overflows lawful formatted escapes exceeds
    rcases agrees.ok_cases with stopsBefore | ⟨start, before, reached⟩
    · exact fits turns stopsBefore
    · obtain rfl : start = left := reached
      refine fits (turns ++ [turn]) ?_
      rw [requests_append, before, ok_bind, requests, stops]
      rfl
  · intro fits turns
    induction turns generalizing stdin with
    | nil => exact fun stops => by cases stops
    | cons turn turns inductionHypothesis =>
        rw [requests]
        rcases request_cases lawful formatted escapes credentials (fits stdin .none) turn with
          ⟨pause, stops⟩ | ⟨rest, buffer, requested, made⟩
        · rw [stops]
          exact fun overflows => by cases overflows
        · rw [made, ok_bind]
          exact inductionHypothesis fun left later => fits left (requested.trans later)

end

end Buffered

/-! ## Credentials -/

theorem cString_eq_nil_iff_not_hasLine {size : Nat} (room : 2 ≤ size) (stdin : Text) :
    cString ((fgets size stdin).1.getD []) = [] ↔ ¬HasLine stdin := by
  cases stdin with
  | nil => simp [fgets, cString, Framing.untilStop, HasLine]
  | cons byte stdin =>
      have more : 1 < size := by omega
      simp [fgets, cString, Framing.untilStop, HasLine, List.takeWhile_cons, more]

/-- A credential is one byte shorter than its line, and two than its array. -/
theorem length_typedLine_le (size : Nat) (stdin : Text) :
    (typedLine size stdin).length ≤ size - 2 := by
  have cut : (cString ((fgets size stdin).1.getD [])).length ≤
      ((fgets size stdin).1.getD []).length := (List.takeWhile_sublist _).length_le
  have line : ((fgets size stdin).1.getD []).length ≤ size - 1 := by
    unfold fgets
    split
    · simp
    · simp only [Option.getD_some, List.length_take]
      omega
  rw [typedLine, List.length_dropLast]
  omega

theorem getCredential_eq {size : Nat} (room : 2 ≤ size) (stdin : Text) :
    (HasLine stdin →
        getCredential size stdin = .ok (typedLine size stdin, (fgets size stdin).2)) ∧
      (¬HasLine stdin → getCredential size stdin = .error .overflows) := by
  have empty := cString_eq_nil_iff_not_hasLine room stdin
  constructor
  · intro line
    have some : cString ((fgets size stdin).1.getD []) ≠ [] := fun none => empty.mp none line
    simp only [getCredential, if_neg some, typedLine]
  · intro noLine
    simp only [getCredential, if_pos (empty.mpr noLine)]

/-- With credentials the client goes on to its requests. -/
theorem client_eq
    {cJSON : CJson} {takesSign : Bool} {leftover stdin : Text} (username : HasLine stdin)
    (password : HasLine (fgets MAX_USERNAME_LENGTH stdin).2) (turns : List ClientTurn) :
    Buffered.client cJSON takesSign leftover turns stdin =
      Buffered.requests cJSON takesSign leftover (typedLine MAX_USERNAME_LENGTH stdin)
        (typedLine MAX_PASSWORD_LENGTH (fgets MAX_USERNAME_LENGTH stdin).2) turns
        (fgets MAX_PASSWORD_LENGTH (fgets MAX_USERNAME_LENGTH stdin).2).2 := by
  have first := (@getCredential_eq MAX_USERNAME_LENGTH (by decide) stdin).1 username
  have second := (@getCredential_eq MAX_PASSWORD_LENGTH (by decide)
    (fgets MAX_USERNAME_LENGTH stdin).2).1 password
  simp only [Buffered.client, getCredentials, first, ok_bind, second, pure_bind]

/-- Credentials are short, also when they are printed. -/
theorem printedWidth_typedLine_le
    {cJSON : CJson} {width : Char → Nat} (escapes : cJSON.Escapes width)
    {size : Nat} (small : size ≤ 50) (stdin : Text) :
    printedWidth width (typedLine size stdin) ≤ 288 := by
  have short := length_typedLine_le size stdin
  have printed := escapes.sum_width_le (typedLine size stdin)
  rw [printedWidth]
  omega

/-- No write of the client leaves its array if and only if the credentials are there and
every order fits. -/
theorem requestsFit_iff
    {cJSON : CJson} {width : Char → Nat}
    (lawful : cJSON.Lawful) (formatted : cJSON.Formatted) (escapes : cJSON.Escapes width)
    (takesSign : Bool) (leftover stdin : Text) :
    RequestsFit cJSON takesSign leftover stdin ↔
      FitsArrays width takesSign leftover stdin := by
  by_cases username : HasLine stdin
  · by_cases password : HasLine (fgets MAX_USERNAME_LENGTH stdin).2
    · have credentials := Nat.add_le_add
        (@printedWidth_typedLine_le cJSON width escapes MAX_USERNAME_LENGTH (by decide) stdin)
        (@printedWidth_typedLine_le cJSON width escapes MAX_PASSWORD_LENGTH (by decide)
          (fgets MAX_USERNAME_LENGTH stdin).2)
      simp only [RequestsFit, client_eq username password]
      rw [Buffered.requests_fit_iff_orders_fit lawful formatted escapes credentials]
      exact ⟨fun orders => ⟨username, password, orders⟩, fun fits => fits.orders⟩
    · refine iff_of_false (fun fits => fits [] ?_) fun fits => password fits.password
      have first := (@getCredential_eq MAX_USERNAME_LENGTH (by decide) stdin).1 username
      have second := (@getCredential_eq MAX_PASSWORD_LENGTH (by decide) _).2 password
      simp only [Buffered.client, getCredentials, first, ok_bind, second, error_bind]
  · refine iff_of_false (fun fits => fits [] ?_) fun fits => username fits.username
    have first := (@getCredential_eq MAX_USERNAME_LENGTH (by decide) stdin).2 username
    simp only [Buffered.client, getCredentials, first, error_bind]

/-! ## An order for water -/

/-- What is typed for some amount of water. -/
def typedOrder (amount : Text) : Text :=
  "2".toList ++ '\n' :: ("1".toList ++ '\n' :: ("water".toList ++ '\n' :: amount))

theorem firstAnswer_typedOrder (amount : Text) :
    optionPrompt.FirstAnswer false (typedOrder amount) 2
      ('\n' :: ("1".toList ++ '\n' :: ("water".toList ++ '\n' :: amount))) :=
  Prompt.firstAnswer_line (by decide) rfl _

theorem firstAnswer_typedCategory (amount : Text) :
    categoryPrompt.FirstAnswer false
      ('\n' :: ("1".toList ++ '\n' :: ("water".toList ++ '\n' :: amount))) 1
      ('\n' :: ("water".toList ++ '\n' :: amount)) :=
  (Prompt.firstAnswer_line (by decide) rfl _).newline

theorem scanfS_typedKey (amount : Text) :
    scanfS ('\n' :: ("water".toList ++ '\n' :: amount)) =
      (some "water".toList, '\n' :: amount) := rfl

/-- The order fits if its amount does. -/
theorem orderFits_typedOrder_iff
    (width : Char → Nat) (leftover username password amount : Text) :
    OrderFits width false leftover username password (typedOrder amount) ↔
      ∀ value rest, amountPrompt.FirstAnswer false ('\n' :: amount) value rest →
        value < 10 ^ 9 ∧
          4 + printedWidth width "water".toList + (sprintfD value).length +
              printedWidth width username + printedWidth width password ≤ 852 := by
  constructor
  · intro fits value rest answer
    have room := fits _ _ _ (firstAnswer_typedOrder amount) (firstAnswer_typedCategory amount)
    rw [OrderRoom, scanfS_typedKey] at room
    exact room.2 value rest answer
  · intro amounts afterOption category afterCategory option supplyType
    obtain ⟨-, rfl⟩ := option.unique (firstAnswer_typedOrder amount)
    obtain ⟨rfl, rfl⟩ := supplyType.unique (firstAnswer_typedCategory amount)
    rw [OrderRoom, scanfS_typedKey]
    exact ⟨by decide, amounts⟩

/-- What a user types who has the administrator's credentials. -/
def typedDialogue (amount : Text) : Text :=
  "ubuntu\nubuntu\n".toList ++ typedOrder (amount ++ ['\n'])

/-- Five of water fit, and nothing else is asked for. -/
theorem fitsArrays_five :
    FitsArrays (fun byte => (Reference.escape byte).length) false [] (typedDialogue ['5']) where
  username := ⟨'u', rfl, by decide⟩
  password := ⟨'u', rfl, by decide⟩
  orders := by
    have five : amountPrompt.FirstAnswer false ('\n' :: (['5'] ++ ['\n'])) 5 ['\n'] :=
      (Prompt.firstAnswer_line (by decide) rfl []).newline
    have nothing (prompt : Prompt) (value : Int) (rest : Text) :
        ¬prompt.FirstAnswer false ['\n'] value rest := by
      intro answer
      rcases (@Prompt.firstAnswer_append_newline_iff false prompt [] [] rest value).mp answer with
        ⟨_, answer⟩ | ⟨_, answer, _⟩
      · exact Prompt.not_firstAnswer_nil answer
      · exact Prompt.not_firstAnswer_nil answer
    intro left requested
    have reached : left = typedOrder (['5'] ++ ['\n']) ∨ left = ['\n'] := by
      induction requested with
      | none => exact .inl rfl
      | status _ option inductionHypothesis =>
          rcases inductionHypothesis with rfl | rfl
          · cases (option.unique (firstAnswer_typedOrder _)).1
          · exact absurd option (nothing _ _ _)
      | order _ option supplyType amount inductionHypothesis =>
          rcases inductionHypothesis with rfl | rfl
          · obtain ⟨-, rfl⟩ := option.unique (firstAnswer_typedOrder _)
            obtain ⟨-, rfl⟩ := supplyType.unique (firstAnswer_typedCategory _)
            rw [scanfS_typedKey] at amount
            exact .inr (amount.unique five).2
          · exact absurd option (nothing _ _ _)
    rcases reached with rfl | rfl
    · rw [orderFits_typedOrder_iff]
      intro value rest answer
      obtain ⟨rfl, -⟩ := answer.unique five
      exact ⟨by decide, by decide⟩
    · exact fun _ _ _ option => absurd option (nothing _ _ _)

/-- The dialogue of an order. -/
theorem requestsFit_five : RequestsFit .reference false [] (typedDialogue ['5']) :=
  (requestsFit_iff CJson.reference_lawful CJson.reference_formatted CJson.reference_escapes
    false [] _).mpr fitsArrays_five

/-- An amount of ten digits leaves its array. -/
theorem not_requestsFit_billion :
    ¬RequestsFit .reference false [] (typedDialogue "1000000000".toList) := by
  have billion : amountPrompt.FirstAnswer false ('\n' :: ("1000000000".toList ++ ['\n']))
      (10 ^ 9) ['\n'] := (Prompt.firstAnswer_line (by decide) rfl []).newline
  have exceeds : ¬OrderFits (fun byte => (Reference.escape byte).length) false []
      (typedLine MAX_USERNAME_LENGTH (typedDialogue "1000000000".toList))
      (typedLine MAX_PASSWORD_LENGTH
        (fgets MAX_USERNAME_LENGTH (typedDialogue "1000000000".toList)).2)
      (typedOrder ("1000000000".toList ++ ['\n'])) := by
    rw [orderFits_typedOrder_iff]
    exact fun amounts => absurd (amounts _ _ billion).1 (by decide)
  obtain ⟨turn, stops⟩ := Buffered.request_overflows CJson.reference_lawful
    CJson.reference_formatted CJson.reference_escapes exceeds
  intro fits
  refine fits [turn] ?_
  have behind : (fgets MAX_PASSWORD_LENGTH
      (fgets MAX_USERNAME_LENGTH (typedDialogue "1000000000".toList)).2).2 =
        typedOrder ("1000000000".toList ++ ['\n']) := rfl
  rw [client_eq ⟨'u', rfl, by decide⟩ ⟨'u', rfl, by decide⟩, behind, Buffered.requests, stops]
  rfl

end Refuge
