import RelationalMapping.Number.Decimal

namespace RelationalMapping

def geometryPoint (longitude latitude : Binary64) : String :=
  "SRID=4326;POINT(" ++ longitude.plain ++ " " ++ latitude.plain ++ ")"

end RelationalMapping
