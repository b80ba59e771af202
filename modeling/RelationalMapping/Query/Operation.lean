import RelationalMapping.Query.Expression

namespace RelationalMapping.Expr

def unaryOperations : List (String × (Expr → Expr)) := [
  ("is_empty", (.empty · false)), ("is_not_empty", (.empty · true)),
  ("is_null", (.is · .null false)), ("is_not_null", (.is · .null true)),
  ("is_true", (.is · .true false)), ("is_not_true", (.is · .true true)),
  ("is_false", (.is · .false false)), ("is_not_false", (.is · .false true)),
  ("inverse", .not), ("not", .not), ("bang", .not),
  ("lower", lower), ("upper", upper), ("char_length", charLength), ("text", asText),
  ("cast_int", castInt), ("nullable", nullable), ("not_null", notNull),
  ("jsonb", asJsonb), ("area", area), ("as_geo_json", asGeoJson)]

def binaryOperations : List (String × (Expr → Expr → Expr)) := [
  ("eq", compare .eq), ("ne", compare .ne), ("gt", compare .gt), ("gte", compare .gte),
  ("lt", compare .lt), ("lte", compare .lte),
  ("contains", compareArrays .contains), ("contained_by", compareArrays .containedBy),
  ("overlaps", compareArrays .overlaps),
  ("like", matching .like), ("not_like", notMatching .like),
  ("ilike", matching .ilike), ("not_ilike", notMatching .ilike),
  ("matches", matching .similar), ("not_matches", notMatching .similar),
  ("add", arithmetic .plus), ("sub", arithmetic .minus), ("mul", arithmetic .times),
  ("div", arithmetic .div), ("modulo", arithmetic .mod), ("pow", arithmetic .pow),
  ("plus_interval", plusInterval), ("minus_interval", minusInterval), ("scale", scale),
  ("date_trunc_to", dateTruncTo), ("at_time_zone", .atTimeZone),
  ("and", and), ("bitand", and), ("or", or), ("bitor", or), ("concat", concat),
  ("distance_from", distance), ("within", within), ("overlaps_geometry", overlapsGeometry),
  ("intersects", intersects), ("contains_geometry", containsGeometry), ("buffer", buffer)]

end RelationalMapping.Expr
