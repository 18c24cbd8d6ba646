import Mathlib.Algebra.Group.Nat.Defs
import Roster.Binary.Writer
import Roster.Proofs.Binary.Loading
import Roster.Proofs.MemberSet
import Roster.Proofs.Text.Utf8

/-!
# Binary snapshots are read back

A reader reads what a writer wrote when it takes exactly the bytes written from the front of any
input and leaves the rest as it was. This relation goes through sequencing, so each reader has one
law, by its parts, and the law of a group is the sequence of the laws of its fields. A length is
written in eight bytes, so the laws of texts and lists ask that their lengths fit there.
-/

namespace Roster.Binary

variable {α β : Type}

/-- The reader takes these bytes from the front of every input, for this value. -/
def Reads (reader : Reader α) (bytes : List UInt8) (a : α) : Prop :=
  ∀ rest, reader.run (bytes ++ rest) = .ok (a, rest)

namespace Reads

theorem pure (a : α) : Reads (Pure.pure a) [] a := fun _ => rfl

theorem bind {reader : Reader α} {next : α → Reader β} {front back : List UInt8} {a : α} {b : β}
    (hfirst : Reads reader front a) (hnext : Reads (next a) back b) :
    Reads (reader >>= next) (front ++ back) b := by
  intro rest
  rw [StateT.run_bind, List.append_assoc, hfirst]
  exact hnext rest

theorem map {reader : Reader α} {bytes : List UInt8} {a : α} (f : α → β)
    (hreads : Reads reader bytes a) : Reads (f <$> reader) bytes (f a) := by
  intro rest
  rw [StateT.run_map, hreads]
  rfl

/-- The end of a sequence takes no more bytes. -/
theorem bind_nil {reader : Reader α} {next : α → Reader β} {bytes : List UInt8} {a : α} {b : β}
    (hfirst : Reads reader bytes a) (hnext : Reads (next a) [] b) :
    Reads (reader >>= next) bytes b := by
  have h := hfirst.bind hnext
  rwa [List.append_nil] at h

theorem bind_pure {reader : Reader α} {bytes : List UInt8} {a : α} (f : α → β)
    (hreads : Reads reader bytes a) : Reads (reader >>= fun a => Pure.pure (f a)) bytes (f a) :=
  hreads.bind_nil (pure (f a))

end Reads

/-! ### Numbers and rows of bytes -/

theorem byte_reads (b : UInt8) : Reads byte [b] b := fun _ => rfl

theorem word_reads {width n : Nat} (hn : n < 256 ^ width) :
    Reads (word width) (wordBytes width n) n := by
  induction width generalizing n with
  | zero =>
    have hzero : n = 0 := by simpa using hn
    subst hzero
    exact Reads.pure 0
  | succ width ih =>
    have hhigh : n / 256 < 256 ^ width := by
      rw [Nat.pow_succ, Nat.mul_comm] at hn
      exact Nat.div_lt_of_lt_mul hn
    have hvalue : (UInt8.ofNat n).toNat + 256 * (n / 256) = n := Nat.mod_add_div n 256
    have hrest := (ih hhigh).bind_pure fun high => (UInt8.ofNat n).toNat + 256 * high
    rw [hvalue] at hrest
    exact (byte_reads (UInt8.ofNat n)).bind hrest

theorem length_reads {n : Nat} (hn : n < 2 ^ 64) : Reads length (lengthBytes n) n :=
  word_reads hn

theorem bytes_reads {taken : List UInt8} {count : Nat} (hcount : taken.length = count)
    (shortage : Fault) : Reads (bytes count shortage) taken ⟨taken, hcount⟩ := by
  intro rest
  have htake : (taken ++ rest).take count = taken := List.take_left' hcount
  have hdrop : (taken ++ rest).drop count = rest := List.drop_left' hcount
  simp only [bytes, StateT.run_bind, StateT.run_get, pure_bind]
  split
  · exact congrArg Except.ok (Prod.ext (Subtype.ext htake) hdrop)
  · rename_i hshort
    exact absurd (htake.symm ▸ hcount) hshort

/-! ### Items, texts and optional values -/

theorem times_reads {item : Reader α} {write : α → List UInt8} {items : List α}
    (hitem : ∀ a ∈ items, Reads item (write a) a) :
    Reads (times item items.length) (items.flatMap write) items := by
  induction items with
  | nil => exact Reads.pure []
  | cons a items ih =>
    have hrest := ih fun b hb => hitem b (List.mem_cons_of_mem a hb)
    rw [List.flatMap_cons]
    exact (hitem a List.mem_cons_self).bind (hrest.bind_pure (a :: ·))

theorem list_reads {item : Reader α} {write : α → List UInt8} {items : List α}
    (hlength : items.length < 2 ^ 64) (hitem : ∀ a ∈ items, Reads item (write a) a) :
    Reads (list item) (listBytes write items) items :=
  (length_reads hlength).bind (times_reads hitem)

theorem option_reads {item : Reader α} {write : α → List UInt8} {value : Option α}
    (hitem : ∀ a ∈ value, Reads item (write a) a) :
    Reads (option item) (optionBytes write value) value := by
  cases value with
  | none => exact (byte_reads 0).bind (Reads.pure none)
  | some a => exact (byte_reads 1).bind ((hitem a rfl).bind_pure some)

/-- Whether eight bytes can hold the length of a text. -/
def TextFits (s : String) : Prop := (Text.Utf8.encode s).length < 2 ^ 64

/-- Whether eight bytes can hold the length of a list of texts and of each of them. -/
def TextsFit (texts : List String) : Prop := texts.length < 2 ^ 64 ∧ ∀ s ∈ texts, TextFits s

theorem text_reads {s : String} (hs : TextFits s) : Reads text (textBytes s) s := by
  refine (length_reads hs).bind ((bytes_reads rfl .textBeyondEnd).bind_nil ?_)
  rw [Text.Utf8.decode_encode]
  exact Reads.pure s

theorem texts_read {texts : List String} (htexts : TextsFit texts) :
    Reads (list text) (listBytes textBytes texts) texts :=
  list_reads htexts.1 fun s hs => text_reads (htexts.2 s hs)

/-! ### The fields of a group -/

theorem groupId_reads (id : GroupId) : Reads groupId (idBytes id) id :=
  (bytes_reads id.length_bytes .endOfInput).map GroupId.ofExactly

theorem kind_reads (k : GroupKind) : Reads kind (kindBytes k) k := by
  have htag : k.tag < 256 ^ 4 := by cases k <;> decide
  refine (word_reads htag).bind_nil ?_
  rw [GroupKind.ofTag?_tag]
  exact Reads.pure k

theorem avatar_reads {a : Avatar} (ha : a.size < 2 ^ 64) : Reads avatar (avatarBytes a) a := by
  refine (length_reads ha).bind ((bytes_reads rfl .endOfInput).bind_nil ?_)
  exact Reads.pure a

theorem memberSet_reads {set : MemberSet} (hset : TextsFit set.ids) :
    Reads memberSet (memberSetBytes set) set := by
  have hids := (texts_read hset).bind_pure MemberSet.ofList
  rwa [MemberSet.ofList_ids] at hids

/-- Whether eight bytes can hold every length in a group. -/
structure Fits (g : Group) : Prop where
  name : ∀ s ∈ g.name, TextFits s
  members : TextsFit g.members
  admins : TextsFit g.admins
  removed : TextsFit g.removed.ids
  avatar : ∀ a ∈ g.avatar, a.size < 2 ^ 64

instance (s : String) : Decidable (TextFits s) := inferInstanceAs (Decidable (_ < _))

instance (texts : List String) : Decidable (TextsFit texts) := inferInstanceAs (Decidable (_ ∧ _))

theorem fits_iff {g : Group} :
    Fits g ↔ (∀ s ∈ g.name, TextFits s) ∧ TextsFit g.members ∧ TextsFit g.admins ∧
      TextsFit g.removed.ids ∧ ∀ a ∈ g.avatar, a.size < 2 ^ 64 :=
  ⟨fun ⟨hname, hmembers, hadmins, hremoved, havatar⟩ =>
      ⟨hname, hmembers, hadmins, hremoved, havatar⟩,
    fun ⟨hname, hmembers, hadmins, hremoved, havatar⟩ =>
      ⟨hname, hmembers, hadmins, hremoved, havatar⟩⟩

instance (g : Group) : Decidable (Fits g) := decidable_of_iff _ fits_iff.symm

theorem record_reads {g : Group} (hfits : Fits g) : Reads record (groupBytes g) g :=
  (groupId_reads g.id).bind <|
    (option_reads fun s hs => text_reads (hfits.name s hs)).bind <|
    (texts_read hfits.members).bind <|
    (texts_read hfits.admins).bind <|
    (kind_reads g.kind).bind <|
    (memberSet_reads hfits.removed).bind <|
    (option_reads fun a ha => avatar_reads (hfits.avatar a ha)).bind_pure fun avatar =>
      { g with avatar }

/-! ### Groups -/

theorem run_record_groupBytes {g : Group} (hfits : Fits g) :
    record.run (groupBytes g) = .ok (g, []) := by
  have hread := record_reads hfits []
  rwa [List.append_nil] at hread

theorem loadGroup_append {g : Group} (hfits : Fits g) (rest : List UInt8) :
    loadGroup (groupBytes g ++ rest) = Except.mapError (.invalid g.id) <$> g.accept :=
  loadGroup_of_record (record_reads hfits rest)

/-- What was stored is loaded as it was, whatever stands behind it, if it is valid, and refused with
the message of the rule that it breaks if it is not. -/
theorem loadGroup_groupBytes_append {g : Group} (hfits : Fits g) (rest : List UInt8) :
    (g.validate.value = .ok () → (loadGroup (groupBytes g ++ rest)).value = .ok g) ∧
      ∀ breach, g.validate.value = .error breach →
        (loadGroup (groupBytes g ++ rest)).value = .error (.invalid g.id breach) ∧
          (Fault.invalid g.id breach).message = breach.message := by
  rw [loadGroup_append hfits]
  constructor
  · intro hok
    rw [Group.accept_of_valid (Group.validate_value_eq_ok_iff.1 hok)]
    rfl
  · intro breach herror
    rw [Group.accept_of_breach (Group.validate_value_eq_error_iff.1 herror)]
    exact ⟨rfl, rfl⟩

/-- A group with a name beyond ASCII, an admin listed twice and removed ids given out of order. -/
def newsroom : Group :=
  { Group.create (some "Tëam") ["ann", "bø", "cy"] (some ⟨[0, 255]⟩) .zero .rssFeed with
    admins := ["bø", "bø"]
    removed := .ofList ["zoe", "carl", "zoe"] }

theorem loadGroup_newsroom :
    (Fits newsroom ∧ newsroom.validate.value = .ok () ∧
      (loadGroup (groupBytes newsroom ++ [7])).value = .ok newsroom) ∧
    (loadGroup (groupBytes { newsroom with removed := .ofList ["cy"] })).value
      = .error (.invalid .zero (.removedStillActive "cy")) := by
  have hfits : Fits newsroom := by decide
  have hclash : Fits { newsroom with removed := .ofList ["cy"] } := by decide
  refine ⟨⟨hfits, rfl, (loadGroup_groupBytes_append hfits [7]).1 rfl⟩, ?_⟩
  have hrefused := ((loadGroup_groupBytes_append hclash []).2 _ rfl).1
  rwa [List.append_nil] at hrefused

end Roster.Binary
