import MonkeyTokens.Text.ClusterClass

/-!
# Clusters

A text in the pieces that a reader takes for one character each: extended grapheme clusters.

* `Text.joins` — a character belongs to the cluster before it;
* `Text.clusters` — the clusters of a text.
-/

namespace MonkeyTokens.Text

/-- The text before ends in a consonant that is linked to what follows, the last character first:
    a consonant, then marks with a linker among them. -/
def endsLinked (before : Text) : Bool :=
  (before.takeWhile isLinkable).any isLinker &&
    ((before.dropWhile isLinkable).head?.any fun c => clusterClass c = .consonant)

/-- The text before ends in a pictograph and marks on it, the last character first. -/
def endsPictograph (before : Text) : Bool :=
  (before.dropWhile fun c => clusterClass c = .extend).head?.any fun c =>
    clusterClass c = .pictograph

/-- The text before ends in the first half of a flag, the last character first. -/
def endsHalfFlag (before : Text) : Bool :=
  (before.takeWhile fun c => clusterClass c = .regional).length % 2 = 1

/-- A character belongs to the cluster before it, of which the last character is given first.
    Control characters stand alone, but a carriage return keeps its line feed; Hangul syllables
    are put together from their parts; marks and joiners stay with what they follow, prepended
    signs with what follows them; and linked consonants, joined pictographs and the two halves of
    a flag stay together. -/
def joins (before : Text) (c : Char) : Bool :=
  match before with
  | [] => false
  | last :: earlier =>
    match clusterClass last, clusterClass c with
    | .carriageReturn, .lineFeed => true
    | .carriageReturn, _ | .lineFeed, _ | .control, _ => false
    | _, .carriageReturn | _, .lineFeed | _, .control => false
    | .leading, .leading | .leading, .vowel | .leading, .openSyllable
    | .leading, .closedSyllable => true
    | .openSyllable, .vowel | .openSyllable, .trailing | .vowel, .vowel | .vowel, .trailing => true
    | .closedSyllable, .trailing | .trailing, .trailing => true
    | _, .extend | _, .joiner | _, .spacingMark => true
    | .prepended, _ => true
    | _, .consonant => endsLinked before
    | .joiner, .pictograph => endsPictograph earlier
    | .regional, .regional => endsHalfFlag before
    | _, _ => false

/-- Takes a character into the last cluster, or starts a new one with it.  Both clusters and
    their characters are held last first. -/
def addToClusters (done : List Text) (c : Char) : List Text :=
  match done with
  | [] => [[c]]
  | last :: before => if joins last c then (c :: last) :: before else [c] :: last :: before

/-- The clusters of a text. -/
def clusters (t : Text) : List Text :=
  ((t.foldl addToClusters []).map List.reverse).reverse

end MonkeyTokens.Text
