import Mathlib
import SearchWire.Proofs.ColumnValue.Blob
import SearchWire.Schema.Layout

/-!
# Required fields

Which fields of a message have to be set is documented field by field, here as a table of names.
The rules of the layouts ask for the same fields (`MessageType.requiredFields_eq`), and no two
fields of a message have one name (`MessageType.nodup_names`).
-/

namespace SearchWire

/-- The fields of a message that have to be set, in whatever message it is held. -/
def MessageType.requiredFields : MessageType → List String
  | .matchQuery | .matchPhraseQuery => ["fieldName", "text"]
  | .termQuery => ["fieldName", "term"]
  | .termsQuery => ["fieldName", "terms"]
  | .prefixQuery => ["fieldName", "prefix"]
  | .suffixQuery => ["fieldName", "suffix"]
  | .wildcardQuery => ["fieldName", "value"]
  | .rangeQuery | .existsQuery => ["fieldName"]
  | .constScoreQuery => ["filter"]
  | .nestedQuery => ["path", "query", "scoreMode"]
  | .geoBoundingBoxQuery => ["fieldName", "topLeft", "bottomRight"]
  | .geoDistanceQuery => ["fieldName", "centerPoint", "distance"]
  | .geoPolygonQuery => ["fieldName", "points"]
  | .knnVectorQuery => ["fieldName", "topK", "queryVector"]
  | .functionScoreQuery => ["query", "fieldValueFactor"]
  | .fieldValueFactor | .fieldValueFactorFunction => ["fieldName"]
  | .decayFunction => ["fieldName", "param"]
  | .fieldSort | .geoDistanceSort | .collapse => ["fieldName"]
  | .nestedFilter => ["path", "filter"]
  | .avgAggregation | .maxAggregation | .minAggregation | .sumAggregation
  | .distinctCountAggregation | .countAggregation | .percentilesAggregation => ["name", "fieldName"]
  | .topRowsAggregation => ["name"]
  | .groupByField | .groupByRange => ["name", "fieldName"]
  | .groupByFilter | .groupByComposite => ["name"]
  | .groupByHistogram | .groupByDateHistogram => ["name", "fieldName", "interval"]
  | .groupByGeoDistance => ["name", "fieldName", "origin"]
  | .groupByGeoGrid => ["name", "fieldName", "precision"]
  | .subAggregationSort => ["subAggName"]
  | .searchRequest => ["tableName", "indexName", "searchQuery"]
  | .parallelScanRequest => ["tableName", "indexName", "scanQuery"]
  | .matchAllQuery | .boolQuery | .innerHits | .functionsScoreQuery | .scoreFunction
  | .randomScoreFunction | .dateDecayParam | .numericDecayParam | .geoDecayParam | .sort
  | .scoreSort | .primaryKeySort | .docSort | .groupBySort | .groupKeySort | .rowCountSort
  | .dateTimeValue | .geoPoint | .range | .fieldRange | .searchQuery | .scanQuery
  | .columnsToGet => []

/-- The fields of a decay parameter that have to be set where a decay function holds it. -/
def DecayParamKind.requiredFields : DecayParamKind → List String
  | .date => ["scale"]
  | .numeric | .geo => ["origin", "scale"]

/-- The fields of a message of which at most one may be set. -/
def MessageType.exclusiveFields : MessageType → List String
  | .scoreFunction => ["fieldValueFactor", "decay", "random"]
  | _ => []

/-! ### Rules -/

/-- The name under which a slot is asked for. -/
def Slot.name : Slot → String
  | .leaf tag _ => tag.name
  | .child tag _ _ => tag.name
  | .children tag _ => tag.name
  | .decayParam _ content => content.name

/-- Whether a leaf with the rule has to be set to be written. -/
def Leaf.isRequired : Leaf → Bool
  | .required _ | .requiredList _ | .requiredVector _ => true
  | .optional _ | .present _ | .defaulted _ _ | .weight _ | .list _ | .vector _ => false

/-- Whether a slot has to be set to be written. -/
def Slot.isRequired : Slot → Bool
  | .leaf _ l => l.isRequired
  | .child _ _ required => required
  | .children _ _ => false
  | .decayParam _ _ => true

/-- Whether a slot can hold a decay parameter. -/
def Slot.holdsParam : Slot → Bool
  | .decayParam _ _ => true
  | .leaf _ _ | .child _ _ _ | .children _ _ => false

/-- The layouts require the fields that are documented to be required. -/
lemma MessageType.requiredFields_eq (m : MessageType) :
    m.requiredFields = (m.slots.filter Slot.isRequired).map Slot.name := by
  cases m <;> rfl

lemma MessageType.nodup_names (m : MessageType) : (m.slots.map Slot.name).Nodup := by
  cases m <;> simp [slots, Slot.name]

end SearchWire
