/-!
# A sample network

A small part of a city network, and a few messages of its feed, as the documents that the report
is made from.
-/

namespace Transit.Sample

/-- Three lines over five stations. -/
def layout : String :=
  "\x7b
  \"stations\": [
    \x7b\"station_id\": \"station_0\", \"name\": \"Baker Street\"\x7d,
    \x7b\"station_id\": \"station_1\", \"name\": \"Bond Street\"\x7d,
    \x7b\"station_id\": \"station_2\", \"name\": \"Oxford Circus\"\x7d,
    \x7b\"station_id\": \"station_3\", \"name\": \"Green Park\"\x7d,
    \x7b\"station_id\": \"station_4\", \"name\": \"Westminster\"\x7d
  ],
  \"lines\": [
    \x7b
      \"line_id\": \"line_0\",
      \"name\": \"Jubilee\",
      \"routes\": [
        \x7b
          \"route_id\": \"route_0\",
          \"direction\": \"outbound\",
          \"line_id\": \"line_0\",
          \"start_station_id\": \"station_0\",
          \"end_station_id\": \"station_4\",
          \"route_stops\": [\"station_0\", \"station_1\", \"station_3\", \"station_4\"]
        \x7d,
        \x7b
          \"route_id\": \"route_1\",
          \"direction\": \"inbound\",
          \"line_id\": \"line_0\",
          \"start_station_id\": \"station_4\",
          \"end_station_id\": \"station_0\",
          \"route_stops\": [\"station_4\", \"station_3\", \"station_1\", \"station_0\"]
        \x7d
      ]
    \x7d,
    \x7b
      \"line_id\": \"line_1\",
      \"name\": \"Central\",
      \"routes\": [
        \x7b
          \"route_id\": \"route_2\",
          \"direction\": \"outbound\",
          \"line_id\": \"line_1\",
          \"start_station_id\": \"station_1\",
          \"end_station_id\": \"station_2\",
          \"route_stops\": [\"station_1\", \"station_2\"]
        \x7d,
        \x7b
          \"route_id\": \"route_3\",
          \"direction\": \"inbound\",
          \"line_id\": \"line_1\",
          \"start_station_id\": \"station_2\",
          \"end_station_id\": \"station_1\",
          \"route_stops\": [\"station_2\", \"station_1\"]
        \x7d
      ]
    \x7d,
    \x7b
      \"line_id\": \"line_2\",
      \"name\": \"Bakerloo\",
      \"routes\": [
        \x7b
          \"route_id\": \"route_4\",
          \"direction\": \"outbound\",
          \"line_id\": \"line_2\",
          \"start_station_id\": \"station_0\",
          \"end_station_id\": \"station_2\",
          \"route_stops\": [\"station_0\", \"station_2\"]
        \x7d
      ]
    \x7d
  ],
  \"travel_times\": [
    \x7b\"start_station_id\": \"station_0\", \"end_station_id\": \"station_1\", \"travel_time\": 2\x7d,
    \x7b\"start_station_id\": \"station_1\", \"end_station_id\": \"station_3\", \"travel_time\": 2\x7d,
    \x7b\"start_station_id\": \"station_3\", \"end_station_id\": \"station_4\", \"travel_time\": 2\x7d,
    \x7b\"start_station_id\": \"station_1\", \"end_station_id\": \"station_2\", \"travel_time\": 1\x7d,
    \x7b\"start_station_id\": \"station_0\", \"end_station_id\": \"station_2\", \"travel_time\": 3\x7d
  ]
\x7d
"

/-- What the feed brings on the morning of the first of November 2020. -/
def messages : String :=
  "[
  \x7b\"station_id\": \"station_0\", \"passenger_event\": \"in\", \"datetime\": \"2020-11-01T07:18:50Z\"\x7d,
  \x7b\"station_id\": \"station_0\", \"passenger_event\": \"in\", \"datetime\": \"2020-11-01T07:18:52Z\"\x7d,
  \x7b\"station_id\": \"station_1\", \"passenger_event\": \"out\", \"datetime\": \"2020-11-01T07:19:03Z\"\x7d,
  \x7b\"station_id\": \"station_2\", \"passenger_event\": \"in\", \"datetime\": \"2020-11-01T07:19:10Z\"\x7d,
  \x7b\"station_id\": \"station_0\", \"passenger_event\": \"out\", \"datetime\": \"2020-11-01T07:20:41Z\"\x7d,
  \x7b\"station_id\": \"station_4\", \"passenger_event\": \"in\", \"datetime\": \"2020-11-01T07:21:05Z\"\x7d
]
"

end Transit.Sample
